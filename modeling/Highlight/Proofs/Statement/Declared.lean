import Highlight.Proofs.Statement.WellFormed

/-! What a statement has read of a declaration. Its modifiers, its name and its kind can be read off
the roles it has given, whatever stands between them. -/
namespace Highlight

namespace Role

def keyword? : Role → Option Keyword
  | .keyword k => some k
  | _ => none

def modifier? : Role → Option Modifier
  | .modifier m => some m
  | _ => none

def name? : Role → Option (DeclKind × String)
  | .name kind text => some (kind, text)
  | _ => none

/-- The role tells nothing of a declaration. -/
structure Silent (role : Role) : Prop where
  keyword : role.keyword? = none
  modifier : role.modifier? = none
  name : role.name? = none

theorem silent_punctuation (m : Punctuation) : (Role.punctuation m).Silent :=
  ⟨rfl, rfl, rfl⟩

theorem name?_ofWord (w : String) : (Role.ofWord w).name? = none := by
  unfold Role.ofWord
  split <;> rfl

end Role

/-- The modifiers in front of the first keyword. -/
def leadingModifiers (roles : List Role) : List Modifier :=
  (roles.takeWhile fun role => role.keyword?.isNone).filterMap Role.modifier?

/-- The declaration is the one that the roles tell. While it has no name, its kind is that of the
last keyword. -/
structure Declaration.Told (d : Declaration) (roles : List Role) : Prop where
  begun : roles.filterMap Role.keyword? ≠ []
  modifiers : leadingModifiers roles = d.modifiers
  name : roles.filterMap Role.name? = d.parts.map (d.kind, ·)
  kind : d.parts = [] → (roles.filterMap Role.keyword?).getLast? = some (.declares d.kind)

namespace Statement

/-- What the statement has read is what the roles since its start tell. -/
def Told (roles : List Role) : Statement → Prop
  | .start modifiers _ =>
    roles.filterMap Role.keyword? = [] ∧ roles.filterMap Role.name? = [] ∧
      roles.filterMap Role.modifier? = modifiers
  | .plain _ => True
  | .naming d | .header d | .typeParameters d _ _ | .parameters d _ | .baseList d _ _ _
  | .constraints d _ _ => d.Told roles

theorem Told.declaration {s : Statement} (told : s.Told roles)
    (declares : s.declaration? = some d) : d.Told roles := by
  cases s with
  | start | plain => contradiction
  | _ =>
    obtain rfl := Option.some.inj declares
    exact told

end Statement

variable {roles : List Role} {role : Role}

theorem filterMap_concat {f : α → Option β} (xs : List α) (a : α) :
    (xs ++ [a]).filterMap f = xs.filterMap f ++ (f a).toList := by
  rw [List.filterMap_append]
  cases found : f a with
  | none => rw [List.filterMap_cons_none found]; rfl
  | some b => rw [List.filterMap_cons_some found]; rfl

theorem leadingModifiers_of_silent (silent : roles.filterMap Role.keyword? = [])
    (begins : role.keyword? = some k) :
    leadingModifiers (roles ++ [role]) = roles.filterMap Role.modifier? := by
  have all : ∀ r ∈ roles, r.keyword?.isNone = true := by
    simpa [List.filterMap_eq_nil_iff] using silent
  rw [leadingModifiers, List.takeWhile_append_of_pos all,
    List.takeWhile_cons_of_neg (by simp [begins]), List.append_nil]

theorem begun_concat (begun : roles.filterMap Role.keyword? ≠ []) (role : Role) :
    (roles ++ [role]).filterMap Role.keyword? ≠ [] := by
  rw [List.filterMap_append]
  exact List.append_ne_nil_of_left_ne_nil begun _

theorem leadingModifiers_concat (begun : roles.filterMap Role.keyword? ≠ []) (role : Role) :
    leadingModifiers (roles ++ [role]) = leadingModifiers roles := by
  induction roles with
  | nil => contradiction
  | cons r roles ih =>
    unfold leadingModifiers at ih ⊢
    cases found : r.keyword? with
    | some k => simp [found]
    | none =>
      rw [List.filterMap_cons_none found] at begun
      simp [found, List.filterMap_cons, ih begun]

namespace Declaration.Told

variable {d : Declaration}

theorem concat (told : d.Told roles) (other : role.name? = none)
    (kind : d.parts = [] → role.keyword? = none) : d.Told (roles ++ [role]) where
  begun := begun_concat told.begun role
  modifiers := (leadingModifiers_concat told.begun role).trans told.modifiers
  name := by rw [filterMap_concat, other, told.name, Option.toList_none, List.append_nil]
  kind := by
    intro empty
    rw [filterMap_concat, kind empty, Option.toList_none, List.append_nil]
    exact told.kind empty

/-- Behind the name, only a further part of the name tells anything new. -/
theorem unnamed (told : d.Told roles) (named : d.parts ≠ []) (other : role.name? = none) :
    d.Told (roles ++ [role]) :=
  told.concat other fun empty => absurd empty named

theorem silent (told : d.Told roles) (silent : role.Silent) : d.Told (roles ++ [role]) :=
  told.concat silent.name fun _ => silent.keyword

end Declaration.Told

theorem Statement.Told.silent {s : Statement} (told : s.Told roles) (silent : role.Silent) :
    s.Told (roles ++ [role]) := by
  cases s with
  | start =>
    simp only [Told, filterMap_concat, silent.keyword, silent.name, silent.modifier,
      Option.toList_none, List.append_nil]
    exact told
  | plain => trivial
  | _ => exact Declaration.Told.silent told silent

theorem KeepsHeader.told (kept : KeepsHeader s target) (told : s.Told roles)
    (silent : role.Silent) : target.Told (roles ++ [role]) := by
  cases kept with
  | same => exact told.silent silent
  | start =>
    have told : (Statement.start _ _).Told (roles ++ [role]) := told.silent silent
    exact told
  | _ => trivial

/-- A word adds to the declaration what its role tells. -/
theorem OnWord.told (onWord : OnWord around w p s t) (wellFormed : s.WellFormed)
    (told : s.Told roles) : t.statement.Told (roles ++ [t.role]) := by
  cases onWord with
  | inAttribute => exact Statement.Told.silent told ⟨rfl, rfl, rfl⟩
  | member | ordinary | plain => trivial
  | modifier =>
    obtain ⟨noKeyword, noName, modifiers⟩ := told
    refine ⟨?_, ?_, ?_⟩
    · rw [filterMap_concat, noKeyword]; rfl
    · rw [filterMap_concat, noName]; rfl
    · rw [filterMap_concat, modifiers]; rfl
  | declares =>
    obtain ⟨noKeyword, noName, modifiers⟩ := told
    refine ⟨?_, ?_, ?_, ?_⟩
    · rw [filterMap_concat]
      exact List.append_ne_nil_of_right_ne_nil _ (List.cons_ne_nil _ _)
    · exact (leadingModifiers_of_silent noKeyword rfl).trans modifiers
    · rw [filterMap_concat, noName]; rfl
    · intro
      rw [filterMap_concat]
      exact List.getLast?_concat
  | redeclares unnamed =>
    have noName : roles.filterMap Role.name? = [] := by
      rw [told.name, unnamed]
      rfl
    refine ⟨begun_concat told.begun _, (leadingModifiers_concat told.begun _).trans told.modifiers,
      ?_, ?_⟩
    · rw [filterMap_concat, noName]
      simp [unnamed, Role.name?, Statement.stay]
    · intro
      rw [filterMap_concat]
      exact List.getLast?_concat
  | named =>
    refine ⟨begun_concat told.begun _, (leadingModifiers_concat told.begun _).trans told.modifiers,
      ?_, ?_⟩
    · rw [filterMap_concat, told.name, List.map_append]
      rfl
    · intro empty
      exact absurd empty (List.append_ne_nil_of_right_ne_nil _ (List.cons_ne_nil _ _))
  | headerClause | headerWord | baseArgument =>
    exact Declaration.Told.unnamed told wellFormed (Role.name?_ofWord w)
  | parameter => exact Declaration.Told.unnamed told wellFormed.1 (Role.name?_ofWord w)
  | baseClause | baseWhere | baseType => exact Declaration.Told.unnamed told wellFormed rfl
  | _ => exact Declaration.Told.unnamed told wellFormed.1 rfl

theorem OnMark.silent (onMark : OnMark around p s m t) : t.role.Silent := by
  rcases onMark.role_eq with role | ⟨_, _, role⟩ <;> rw [role] <;> exact Role.silent_punctuation _

/-- In the body of an enumeration a comma starts the next statement, with roles behind it. -/
theorem OnMark.told (onMark : OnMark around p s m t) (outside : around.inEnumBody = false)
    (told : s.Told roles) : t.statement.Told (roles ++ [t.role]) := by
  have silent := onMark.silent
  cases onMark with
  | leaves => exact (Statement.keepsHeader_leave s _).told told silent
  | deepens => exact (Statement.keepsHeader_deepen_leave s _).told told silent
  | nests => exact (Statement.keepsHeader_deepen s).told told silent
  | lifts => exact (Statement.keepsHeader_lift s).told told silent
  | nextMember body =>
    rw [outside] at body
    contradiction
  | passes => exact Statement.Told.silent told silent
  | typeParametersEnd =>
    have told := Declaration.Told.silent told silent
    exact ⟨told.begun, told.modifiers, told.name, told.kind⟩
  | _ => exact Declaration.Told.silent told silent

/-- With each turn, the declaration stays the one that the roles tell. -/
theorem Statement.Takes.told (taken : Takes s around x t) (outside : around.inEnumBody = false)
    (wellFormed : s.WellFormed) (told : s.Told roles) :
    t.statement.Told (roles ++ [t.role]) := by
  cases taken with
  | word => exact (onWord_word s around x.text x.position).told wellFormed told
  | literal =>
    refine (keepsHeader_leave s _).told told ?_
    rw [Statement.literal, role_leave]
    exact ⟨rfl, rfl, rfl⟩
  | mark => exact (onMark_mark s around _ x.position).told outside told

end Highlight
