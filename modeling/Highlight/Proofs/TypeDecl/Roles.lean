import Highlight.Proofs.Classification.Reading
import Highlight.Proofs.TypeDecl.Layout
import Highlight.Source

/-! Written declarations get the roles of their trees. -/
namespace Highlight

open Layout Statement

theorem Modifier.ofWord?_spelling (declared : m ∈ ofDeclarations) :
    ofWord? m.spelling = some m := by
  revert m
  decide +kernel

theorem Modifier.ofWord?_declKind (kind : DeclKind) : ofWord? kind.spelling = none := by
  cases kind <;> decide +kernel

theorem Keyword.ofWord?_declKind (kind : DeclKind) :
    ofWord? kind.spelling = some (.declares kind) := by
  cases kind <;> decide +kernel

namespace TypeName

/-- Reserved words start with lower-case letters. -/
theorem ne_text (name : TypeName) (lower : w.toList.head?.all (!·.isUpper) = true) :
    w ≠ name.text := by
  rintro rfl
  simp [text, name.upper] at lower

theorem find?_text (name : TypeName) {table : List α} {spelling : α → String}
    (lower : table.all (fun x => (spelling x).toList.head?.all (!·.isUpper)) = true) :
    table.find? (spelling · = name.text) = none := by
  apply List.find?_eq_none.mpr
  intro x member
  simpa using name.ne_text (List.all_eq_true.mp lower x member)

variable (name : TypeName)

theorem noVariance : Modifier.variance? name.text = none :=
  name.find?_text (by decide +kernel)

theorem noKeyword : Keyword.ofWord? name.text = none :=
  name.find?_text (by decide +kernel)

theorem noConstraintWord : Keyword.ofConstraintWord? name.text = none :=
  name.find?_text (by decide +kernel)

theorem ne_where : name.text ≠ "where" :=
  (name.ne_text (by decide)).symm

end TypeName

/-- Statements in which names are types and `<` behind one opens type arguments, by the places of
the `<` that are open. -/
structure TypeRegion (region : List Position → Statement) : Prop where
  name (angles : List Position) (n : TypeName) :
    Reads (region angles) [.word n.text] [.type n.text] (region angles)
  opens (angles : List Position) (n : TypeName) :
    Reads (region angles) [.word n.text, .mark .lessThan]
      [.type n.text, .punctuation .typeArgumentsBegin] (region (origin :: angles))
  comma (angles : List Position) :
    Reads (region angles) [.mark .comma] [.punctuation .comma] (region angles)
  closes (angles : List Position) :
    Reads (region (origin :: angles)) [.mark .greaterThan] [.punctuation .typeArgumentsEnd]
      (region angles)

theorem typeRegion_baseList (d : Declaration) :
    TypeRegion fun angles => .baseList d origin angles [] := by
  have taken (n : TypeName) (angles : List Position) (last? : Option Role) :
      (baseList d origin angles []).word ⟨false, last?⟩ n.text origin =
        (baseList d origin angles []).stay (.type n.text) := by
    simp [Statement.word, wordInBaseList, n.ne_where]
  constructor
  · intro angles n
    exact .word (taken n angles)
  · intro angles n
    exact .word_lessThan (taken n angles) rfl
  · intro angles
    exact .mark (by decide) rfl fun _ => rfl
  · intro angles
    exact .mark (by decide) rfl fun _ => rfl

theorem typeRegion_constraints (d : Declaration) :
    TypeRegion fun angles => .constraints d origin angles := by
  have taken (n : TypeName) (angles : List Position) (last? : Option Role) :
      (constraints d origin angles).word ⟨false, last?⟩ n.text origin =
        (constraints d origin angles).stay (.type n.text) := by
    simp [Statement.word, wordInConstraints, n.noConstraintWord]
  constructor
  · intro angles n
    exact .word (taken n angles)
  · intro angles n
    exact .word_lessThan (taken n angles) rfl
  · intro angles
    exact .mark (by decide) rfl fun _ => rfl
  · intro angles
    exact .mark (by decide) rfl fun _ => rfl

/-- Type arguments of any depth are types, and all their brackets are closed behind them. -/
theorem TypeRegion.reads (types : TypeRegion region) (t : TypeExpr) (angles : List Position) :
    Reads (region angles) t.layout t.roles (region angles) := by
  induction t using TypeExpr.layout.induct generalizing angles with
  | case1 name =>
    rw [TypeExpr.layout, TypeExpr.roles]
    exact types.name angles name
  | case2 name arguments ih =>
    rw [TypeExpr.layout, TypeExpr.roles]
    -- The arguments stand inside one more bracket, so the induction is over all lists of places.
    have inside : Reads (region (origin :: angles)) (separated (arguments.map TypeExpr.layout))
        (Role.separated (arguments.map TypeExpr.roles)) (region (origin :: angles)) := by
      cases arguments with
      | nil => exact .nil
      | cons first others => exact .separated (fun t member => ih t member _) (types.comma _)
    exact (types.opens angles name).append (inside.append (types.closes angles))

namespace TypeHeader

variable (h : TypeHeader)

def declaration : Declaration where
  kind := h.kind
  keyword := origin
  modifiers := h.modifiers
  parts := [h.name.text]
  generic := !h.typeParameters.isEmpty

def behindBases (d : Declaration) : List TypeExpr → Statement
  | [] => .header d
  | _ :: _ => .baseList d origin [] []

def behind : Statement :=
  match h.typeParameters with
  | [] => behindBases h.declaration h.bases
  | _ :: _ => .constraints h.declaration origin []

theorem reads_modifiers (before : List Modifier) {modifiers : List Modifier}
    (declared : ∀ m ∈ modifiers, m ∈ Modifier.ofDeclarations) :
    Reads (.start before 0) (modifierLayout modifiers) (modifiers.map .modifier)
      (.start (before ++ modifiers) 0) := by
  induction modifiers generalizing before with
  | nil =>
    rw [List.append_nil]
    exact .nil
  | cons m modifiers ih =>
    have spelled := Modifier.ofWord?_spelling (declared m (.head _))
    have first : Reads (.start before 0) [.word m.spelling] [.modifier m]
        (.start (before ++ [m]) 0) := by
      apply Reads.word
      intro last?
      simp only [Statement.word, leadingWord, spelled]
      rfl
    have others := ih (before ++ [m]) fun m member => declared m (.tail _ member)
    rw [List.append_assoc] at others
    exact (first.append .blank).append others

theorem reads_keyword : Reads (.start h.modifiers 0) [.word h.kind.spelling]
    [.keyword (.declares h.kind)]
    (.naming { kind := h.kind, keyword := origin, modifiers := h.modifiers }) := by
  apply Reads.word
  intro last?
  simp only [Statement.word, leadingWord, Modifier.ofWord?_declKind, Keyword.ofWord?_declKind]
  rfl

theorem reads_typeParameters (d : Declaration) (first : TypeName) (others : List TypeName) :
    Reads (.typeParameters d true [origin])
      (separated ((first :: others).map fun name => [.word name.text]) ++ [.mark .greaterThan])
      (Role.separated ((first :: others).map fun name => [.typeParameter name.text]) ++
        [.punctuation .typeParametersEnd]) (.header { d with generic := true }) := by
  have each (name : TypeName) : Reads (.typeParameters d true [origin]) [.word name.text]
      [.typeParameter name.text] (.typeParameters d false [origin]) := by
    apply Reads.word
    intro last?
    simp only [Statement.word, wordInTypeParameters, name.noVariance]
    rfl
  have comma : Reads (.typeParameters d false [origin]) [.mark .comma] [.punctuation .comma]
      (.typeParameters d true [origin]) :=
    .mark (by decide) rfl fun _ => rfl
  have closes : Reads (.typeParameters d false [origin]) [.mark .greaterThan]
      [.punctuation .typeParametersEnd] (.header { d with generic := true }) :=
    .mark (by decide) rfl fun _ => rfl
  exact (Reads.separated (fun name _ => each name) comma).append closes

/-- The name is read with the list of type parameters behind it, if there is one. -/
theorem reads_name :
    Reads (.naming { kind := h.kind, keyword := origin, modifiers := h.modifiers })
      (.word h.name.text :: parameterLayout h.typeParameters)
      (.name h.kind h.name.text :: parameterRoles h.typeParameters) (.header h.declaration) := by
  have taken (last? : Option Role) :
      (naming { kind := h.kind, keyword := origin, modifiers := h.modifiers }).word
        ⟨false, last?⟩ h.name.text origin =
      enter (.header { h.declaration with generic := false }) (.name h.kind h.name.text) := by
    simp [Statement.word, wordInName, h.name.noKeyword, declaration]
  cases parameters : h.typeParameters with
  | nil =>
    have same : { h.declaration with generic := false } = h.declaration := by
      simp [declaration, parameters]
    rw [same] at taken
    exact .word taken
  | cons first others =>
    have same : { h.declaration with generic := true } = h.declaration := by
      simp [declaration, parameters]
    -- The bracket is read together with the name, since only a name before it makes it one.
    have opens := Reads.word_lessThan taken rfl
    have inside := reads_typeParameters { h.declaration with generic := false } first others
    rw [← same]
    exact opens.append inside

theorem reads_bases (d : Declaration) (bases : List TypeExpr) :
    Reads (.header d) (baseLayout bases) (baseRoles bases) (behindBases d bases) := by
  cases bases with
  | nil => exact .nil
  | cons first others =>
    have types := typeRegion_baseList d
    have colon : Reads (.header d) [.mark .colon] [.punctuation .colon]
        (.baseList d origin [] []) :=
      .mark (by decide) rfl fun _ => rfl
    have named : Reads (.baseList d origin [] [])
        (separated ((first :: others).map TypeExpr.layout))
        (Role.separated ((first :: others).map TypeExpr.roles)) (.baseList d origin [] []) :=
      .separated (fun t _ => types.reads t []) (types.comma [])
    exact ((Reads.blank.append colon).append .blank).append named

theorem reads_where (generic : d.generic = true) (bases : List TypeExpr) :
    Reads (behindBases d bases) [.word "where"] [.keyword .whereClause]
      (.constraints d origin []) := by
  have reserved : Role.ofWord "where" = .keyword .whereClause := by decide +kernel
  cases bases with
  | nil =>
    apply Reads.word
    intro last?
    simp only [behindBases, Statement.word, generic, reserved]
    rfl
  | cons =>
    apply Reads.word
    intro last?
    simp only [behindBases, Statement.word, wordInBaseList, generic]
    rfl

/-- A constraint clause is read behind a base list. -/
theorem reads_constraint :
    Reads (behindBases h.declaration h.bases) (constraintLayout h.typeParameters)
      (constraintRoles h.typeParameters) h.behind := by
  unfold behind
  cases parameters : h.typeParameters with
  | nil => exact .nil
  | cons first others =>
    have generic : h.declaration.generic = true := by simp [declaration, parameters]
    have types := typeRegion_constraints h.declaration
    have colon : Reads (.constraints h.declaration origin []) [.mark .colon] [.punctuation .colon]
        (.constraints h.declaration origin []) :=
      .mark (by decide) rfl fun _ => rfl
    have compared : (TypeExpr.generic .comparable [.plain first]).roles =
        [.type "IComparable", .punctuation .typeArgumentsBegin, .type first.text,
         .punctuation .typeArgumentsEnd] := by
      simp [TypeExpr.roles, Role.separated, TypeName.comparable, TypeName.text]
    have type := types.reads (.generic .comparable [.plain first]) []
    rw [compared] at type
    exact ((((((Reads.blank.append (reads_where generic h.bases)).append .blank).append
      (types.name [] first)).append .blank).append colon).append .blank).append type

theorem reads_header : Reads .empty h.layout h.roles h.behind := by
  have start := (reads_modifiers [] h.declared).append (h.reads_keyword.append .blank)
  have header := (h.reads_name.append (reads_bases h.declaration h.bases)).append h.reads_constraint
  simpa [layout, roles, Statement.empty] using start.append header

theorem unclosed?_behind : h.behind.unclosed? = none := by
  unfold behind
  cases h.typeParameters with
  | nil => cases h.bases <;> rfl
  | cons => rfl

theorem kind_scope_behind (p : Position) : (h.behind.scope p).kind = .body h.kind := by
  unfold behind
  cases h.typeParameters with
  | nil => cases h.bases <;> rfl
  | cons => rfl

end TypeHeader

/-- A declaration is read with its roles from one start of a statement to the next, by recursion on
those in its body. -/
theorem TypeDecl.reads (d : TypeDecl) : Reads .empty d.layout d.roles .empty := by
  induction d using TypeDecl.layout.induct with
  | case1 header members ih =>
    rw [layout, roles]
    have members : Reads .empty (members.flatMap layout) (members.flatMap roles) .empty :=
      .flatMap ih
    have noEnum : (header.behind.scope origin).kind ≠ .body .enumDecl := by
      intro same
      rw [header.kind_scope_behind] at same
      have holds := header.holdsMembers
      rw [ScopeKind.body.inj same] at holds
      exact absurd holds (by decide)
    have body := Reads.braces header.unclosed?_behind noEnum (Reads.newline.append members)
    have whole := (header.reads_header.append (Reads.newline.append body)).append .newline
    simpa using whole

/-- Declarations of types, written one behind the other and to any depth, are recognized as what
they are. -/
theorem roles_text (ds : List TypeDecl) :
    roles (String.join (ds.map TypeDecl.text)) = .ok (ds.flatMap TypeDecl.roles) := by
  obtain ⟨xs, lexed, shapes⟩ := lex_written (TypeDecl.spaced_layouts ds)
  have reads : Reads .empty (ds.flatMap TypeDecl.layout) (ds.flatMap TypeDecl.roles) .empty :=
    .flatMap fun d _ => d.reads
  obtain ⟨us, classified, given⟩ := classify_of_reads reads
  have moved : xs.map (Lexeme.relocate fun _ => origin) =
      (ds.flatMap TypeDecl.layout).map Item.lexeme := by
    have placed := congrArg (List.map fun shape => Lexeme.mk shape.1 shape.2 origin) shapes
    rw [List.map_map, List.map_map] at placed
    exact placed
  -- The text gives the lexemes places of their own, on which the roles do not depend.
  rw [← moved, ← classify_significant, significant_relocate] at classified
  obtain ⟨ts, classified, same⟩ := roles_of_relocate classified
  rw [TypeDecl.written_layouts] at lexed
  simp [roles, tokens, lexed, classified, Except.map, same, given]

end Highlight
