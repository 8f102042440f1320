import Highlight.Proofs.Lexeme.Layout
import Highlight.Proofs.TypeDecl.Syntax

/-! The text of a declaration as a layout of words, marks and spaces. -/
namespace Highlight

open Layout

theorem toNat_lt_of_isAlphanum {c : Char} (ascii : c.isAlphanum = true) : c.toNat < 0x80 := by
  rcases Bool.or_eq_true_iff.mp ascii with letter | digit
  · have := toNat_of_isAlpha letter
    omega
  · have := toNat_of_isDigit digit
    omega

theorem isWordContinue_of_isAlphanum {c : Char} (ascii : c.isAlphanum = true) :
    isWordContinue c = true := by
  have bound := toNat_lt_of_isAlphanum ascii
  rw [Char.isAlphanum] at ascii
  simp [isWordContinue, Unicode.isAlphanumeric, Unicode.isAlphabetic, Unicode.isNumeric, bound,
    Bool.or_eq_true_iff.mp ascii]

theorem isWord_modifier (m : Modifier) : IsWord m.spelling := by
  cases m <;> exact ⟨_, _, rfl, by decide, by decide⟩

theorem isWord_declKind (kind : DeclKind) : IsWord kind.spelling := by
  cases kind <;> exact ⟨_, _, rfl, by decide, by decide⟩

theorem TypeName.isWord (name : TypeName) : IsWord name.text := by
  refine ⟨name.head, name.tail, String.toList_ofList, ?_, ?_⟩
  · have letter : name.head.isAlpha = true := Bool.or_eq_true_iff.mpr (.inl name.upper)
    have bound := toNat_lt_of_isAlphanum (Bool.or_eq_true_iff.mpr (.inl letter))
    simp [isWordStart, Unicode.isAlphabetic, bound, letter]
  · apply List.all_eq_true.mpr
    intro c member
    have ascii := List.all_eq_true.mp name.ascii c member
    rw [Bool.or_eq_true, decide_eq_true_eq] at ascii
    rcases ascii with ascii | rfl
    · exact isWordContinue_of_isAlphanum ascii
    · decide

namespace TypeExpr

def layout : TypeExpr → List Item
  | .plain name => [.word name.text]
  | .generic name arguments =>
    .word name.text :: .mark .lessThan ::
      (separated (arguments.map layout) ++ [.mark .greaterThan])

theorem phrase (t : TypeExpr) : Phrase t.layout := by
  induction t using layout.induct with
  | case1 name =>
    rw [layout]
    exact phrase_word name.isWord
  | case2 name arguments ih =>
    rw [layout]
    have inside : ∀ part ∈ arguments.map layout, Phrase part := by
      intro part member
      obtain ⟨argument, among, rfl⟩ := List.mem_map.mp member
      exact ih argument among
    constructor
    · exact ⟨name.text, _, rfl⟩
    · intro rest follows
      rw [List.cons_append, List.cons_append, List.append_assoc]
      have closed : Follows (.mark .greaterThan :: rest) := ⟨nofun, by decide, follows.2⟩
      exact ⟨name.isWord, nofun, by decide, spaced_separated inside closed⟩

theorem written_layout (t : TypeExpr) : written t.layout = t.text := by
  induction t using layout.induct with
  | case1 name => simp [layout, text, Item.text]
  | case2 name arguments ih =>
    have same : arguments.map (fun t => written t.layout) = arguments.map text :=
      List.map_congr_left ih
    simp [layout, text, Item.text, Punctuation.spelling, written_separated, Function.comp_def, same,
      String.append_assoc]

end TypeExpr

namespace TypeHeader

def parameterLayout : List TypeName → List Item
  | [] => []
  | first :: others =>
    .mark .lessThan ::
      (separated ((first :: others).map fun name => [.word name.text]) ++ [.mark .greaterThan])

def baseLayout : List TypeExpr → List Item
  | [] => []
  | first :: others =>
    .blank :: .mark .colon :: .blank :: separated ((first :: others).map TypeExpr.layout)

def constraintLayout : List TypeName → List Item
  | [] => []
  | first :: _ =>
    .blank :: .word "where" :: .blank :: .word first.text :: .blank :: .mark .colon :: .blank ::
      (TypeExpr.generic .comparable [.plain first]).layout

def modifierLayout (modifiers : List Modifier) : List Item :=
  modifiers.flatMap fun m => [.word m.spelling, .blank]

def layout (h : TypeHeader) : List Item :=
  modifierLayout h.modifiers ++ .word h.kind.spelling :: .blank :: .word h.name.text ::
    (parameterLayout h.typeParameters ++ baseLayout h.bases ++ constraintLayout h.typeParameters)

theorem follows_parameterLayout (parameters : List TypeName) (follows : Follows rest) :
    Follows (parameterLayout parameters ++ rest) := by
  cases parameters with
  | nil => exact follows
  | cons first others =>
    have closed : Follows (.mark .greaterThan :: rest) := ⟨nofun, by decide, follows.2⟩
    rw [parameterLayout, List.cons_append, List.append_assoc]
    refine ⟨nofun, by decide, spaced_separated ?_ closed⟩
    intro part member
    obtain ⟨name, _, rfl⟩ := List.mem_map.mp member
    exact phrase_word name.isWord

theorem follows_baseLayout (bases : List TypeExpr) (follows : Follows rest) :
    Follows (baseLayout bases ++ rest) := by
  cases bases with
  | nil => exact follows
  | cons first others =>
    obtain ⟨w, items, starts⟩ := first.phrase.leads_separated (others.map TypeExpr.layout)
    have spaced : Spaced (separated ((first :: others).map TypeExpr.layout) ++ rest) := by
      refine spaced_separated ?_ follows
      intro part member
      obtain ⟨base, _, rfl⟩ := List.mem_map.mp member
      exact base.phrase
    rw [List.map_cons, starts] at spaced
    rw [baseLayout, List.map_cons, starts]
    exact ⟨nofun, nofun, by decide, nofun, spaced⟩

theorem follows_constraintLayout (parameters : List TypeName) (follows : Follows rest) :
    Follows (constraintLayout parameters ++ rest) := by
  cases parameters with
  | nil => exact follows
  | cons first others =>
    have reserved : IsWord "where" := ⟨_, _, rfl, by decide, by decide⟩
    have compared := (TypeExpr.generic .comparable [.plain first]).phrase
    obtain ⟨w, items, starts⟩ := compared.leads
    have spaced := compared.spaced follows
    rw [starts] at spaced
    rw [constraintLayout, starts]
    exact ⟨nofun, nofun, reserved, nofun, nofun, first.isWord, nofun, nofun, by decide, nofun,
      spaced⟩

theorem spaced_modifierLayout (modifiers : List Modifier) (solid : rest.head? ≠ some .blank)
    (spaced : Spaced rest) :
    (modifierLayout modifiers ++ rest).head? ≠ some .blank ∧
      Spaced (modifierLayout modifiers ++ rest) := by
  induction modifiers with
  | nil => exact ⟨solid, spaced⟩
  | cons m modifiers ih => exact ⟨nofun, isWord_modifier m, nofun, ih⟩

theorem spaced_layout (h : TypeHeader) (follows : Follows rest) : Spaced (h.layout ++ rest) := by
  have behind : Follows (parameterLayout h.typeParameters ++ baseLayout h.bases ++
      constraintLayout h.typeParameters ++ rest) := by
    simp only [List.append_assoc]
    apply follows_parameterLayout
    apply follows_baseLayout
    exact follows_constraintLayout _ follows
  rw [layout, List.append_assoc]
  apply And.right
  apply spaced_modifierLayout
  · nofun
  · exact ⟨isWord_declKind h.kind, nofun, nofun, h.name.isWord, behind⟩

theorem written_parameterLayout (parameters : List TypeName) :
    written (parameterLayout parameters) = parameterText parameters := by
  cases parameters with
  | nil => rfl
  | cons first others =>
    simp [parameterLayout, parameterText, Item.text, Punctuation.spelling, written_separated,
      Function.comp_def, String.append_assoc]

theorem written_baseLayout (bases : List TypeExpr) :
    written (baseLayout bases) = baseText bases := by
  cases bases with
  | nil => rfl
  | cons first others =>
    apply String.toList_inj.mp
    simp [baseLayout, baseText, Item.text, Punctuation.spelling, written_separated,
      Function.comp_def, TypeExpr.written_layout]

theorem written_constraintLayout (parameters : List TypeName) :
    written (constraintLayout parameters) = constraintText parameters := by
  cases parameters with
  | nil => rfl
  | cons first others =>
    have compared : (TypeExpr.generic .comparable [.plain first]).text =
        "IComparable<" ++ first.text ++ ">" := by
      simp [TypeExpr.text, TypeName.comparable, TypeName.text]
    simp only [constraintLayout, constraintText, written_cons, TypeExpr.written_layout, compared,
      Item.text, Punctuation.spelling]
    apply String.toList_inj.mp
    simp

theorem written_modifierLayout (modifiers : List Modifier) :
    written (modifierLayout modifiers) =
      String.join (modifiers.map fun m => m.spelling ++ " ") := by
  simp [modifierLayout, written_flatMap, Item.text]

theorem written_layout (h : TypeHeader) : written h.layout = h.text := by
  simp [layout, text, Item.text, written_modifierLayout, written_parameterLayout,
    written_baseLayout, written_constraintLayout, String.append_assoc]

end TypeHeader

namespace TypeDecl

def layout : TypeDecl → List Item
  | ⟨header, members⟩ =>
    header.layout ++ .newline :: .mark .openBrace :: .newline ::
      (members.flatMap layout ++ [.mark .closeBrace, .newline])

theorem spaced_flatMap (members : List TypeDecl)
    (each : ∀ d ∈ members, ∀ rest, Spaced rest → Spaced (layout d ++ rest)) (spaced : Spaced rest) :
    Spaced (members.flatMap layout ++ rest) := by
  induction members with
  | nil => exact spaced
  | cons d members ih =>
    rw [List.flatMap_cons, List.append_assoc]
    exact each d (.head _) _ (ih fun d member => each d (.tail _ member))

/-- The items of a declaration keep apart, so that its text is cut into them. -/
theorem spaced_layout (d : TypeDecl) (rest : List Item) (spaced : Spaced rest) :
    Spaced (d.layout ++ rest) := by
  induction d using layout.induct generalizing rest with
  | case1 header members ih =>
    rw [layout, List.append_assoc]
    apply TypeHeader.spaced_layout
    simp only [List.cons_append, List.append_assoc]
    refine ⟨nofun, by decide, ?_⟩
    exact spaced_flatMap members ih ⟨by decide, spaced⟩

/-- The layout of a declaration writes its text. -/
theorem written_layout (d : TypeDecl) : written d.layout = d.text := by
  induction d using layout.induct with
  | case1 header members ih =>
    have same : members.map (fun d => written d.layout) = members.map text :=
      List.map_congr_left ih
    apply String.toList_inj.mp
    simp [layout, text, Item.text, Punctuation.spelling, written_flatMap, same,
      TypeHeader.written_layout]

/-- The text of declarations, one behind the other, is a layout in which all items keep apart. -/
theorem spaced_layouts (ds : List TypeDecl) : Spaced (ds.flatMap layout) := by
  have spaced : Spaced (ds.flatMap layout ++ []) :=
    spaced_flatMap ds (fun d _ => spaced_layout d) trivial
  rwa [List.append_nil] at spaced

theorem written_layouts (ds : List TypeDecl) :
    written (ds.flatMap layout) = String.join (ds.map text) := by
  simp [written_flatMap, written_layout]

end TypeDecl
end Highlight
