import Highlight.Proofs.Lexeme.LineBreaks

/-! Texts that differ only in how their line breaks are written are cut into the same pieces, and
end at the same obstacle. -/
namespace Highlight

variable {style : BreakStyle} {b cs ds r s : List Char} {c : Char}

open Aligned

namespace Interpolation

/-- The move of a string is the same in the two texts, but at line breaks. -/
theorem move_rewritten (rewritten : Rewritten style r s) (solid : isLineBreak c = false) :
    move verbatim holes c s = move verbatim holes c r := by
  have opening : Opening.of? (c :: s) = Opening.of? (c :: r) := (rewritten.solid solid).opening
  have notLineBreak : s.head?.any (!isLineBreak ·) = r.head?.any (!isLineBreak ·) :=
    rewritten.any_head? rfl
  unfold move
  simp only [opening, notLineBreak, rewritten.head?_iff (c := '{') rfl,
    rewritten.head?_iff (c := '"') rfl]

theorem move_lineBreak (lineBreak : isLineBreak c = true) :
    move verbatim holes c r = if holes = 0 ∧ verbatim = false then .broken else .pass 0 holes := by
  have noString : Opening.of? (c :: r) = none := by
    simp only [isLineBreak, Bool.or_eq_true, decide_eq_true_eq] at lineBreak
    rcases lineBreak with rfl | rfl <;> exact Opening.of?_eq_none (by decide) (by decide) r
  have other {d : Char} (solid : isLineBreak d = false) : c ≠ d := ne_of_isLineBreak lineBreak solid
  by_cases outside : holes = 0
  · subst outside
    simp [move, lineBreak, other (d := '{') rfl, other (d := '"') rfl, other (d := '\\') rfl]
  · simp [move, outside, noString, other (d := '{') rfl, other (d := '}') rfl,
      other (d := '\'') rfl, other (d := '\\') rfl]

/-- A second character is passed only when it is a brace, a quote or behind a backslash. -/
theorem move_pass (found : move verbatim holes c r = .pass further holes') :
    ∀ d ∈ r.take further, isLineBreak d = false := by
  have second (solid : r.head?.any (!isLineBreak ·) = true) :
      ∀ d ∈ r.take 1, isLineBreak d = false := by
    cases r with
    | nil => exact nofun
    | cons e r => simpa using solid
  have double {e : Char} (head : r.head? = some e) (solid : isLineBreak e = false) :
      ∀ d ∈ r.take 1, isLineBreak d = false := by
    apply second
    rw [head, Option.any_some, solid]
    rfl
  unfold move at found
  by_cases outside : holes = 0
  · rw [if_pos outside] at found
    split at found
    · contradiction
    split at found
    · split at found <;> cases found
      · next brace => exact double brace rfl
      · exact nofun
    split at found
    · split at found <;> cases found
      next quote =>
        simp only [Bool.and_eq_true, decide_eq_true_eq] at quote
        exact double quote.2 rfl
    split at found <;> cases found
    · next escape =>
      simp only [Bool.and_eq_true] at escape
      exact second escape.2
    · exact nofun
  · rw [if_neg outside] at found
    split at found
    · cases found
      exact nofun
    split at found
    · cases found
      exact nofun
    split at found
    · contradiction
    split at found
    · contradiction
    split at found <;> cases found
    · next escape =>
      simp only [Bool.and_eq_true] at escape
      exact second escape.2
    · exact nofun

theorem of?_of_move {opening : Opening} (found : move verbatim holes c r = .string opening) :
    Opening.of? (c :: r) = some opening := by
  unfold move at found
  grind

end Interpolation

/-- The characters of an opening break no line. -/
theorem Opening.solid_of_of? {opening : Opening} (found : of? cs = some opening) :
    ∀ c ∈ cs.take (opening.ahead + 1), isLineBreak c = false := by
  have size := (of?_eq_some.mp found).ahead_lt
  intro c member
  rw [← List.takeWhile_append_dropWhile (p := isStringSigil) (l := cs),
    ← List.takeWhile_append_dropWhile (p := (· = '"')) (l := cs.dropWhile isStringSigil),
    ← List.append_assoc, List.take_append_of_le_length (by rw [List.length_append]; exact size)]
    at member
  rcases List.mem_append.mp (List.mem_of_mem_take member) with sigil | quote
  · have sigil := List.all_eq_true.mp List.all_takeWhile c sigil
    simp only [isStringSigil, Bool.or_eq_true, decide_eq_true_eq] at sigil
    rcases sigil with rfl | rfl <;> rfl
  · obtain rfl := of_decide_eq_true (List.all_eq_true.mp List.all_takeWhile c quote)
    rfl

inductive SameReading (style : BreakStyle) (cs ds : List Char) :
    Except Unclosed Nat → Except Unclosed Nat → Prop
  | ok (aligned : Aligned style cs ds n m) : SameReading style cs ds (.ok n) (.ok m)
  | self : SameReading style cs ds (.error .self) (.error .self)
  | inner (aligned : Aligned style cs ds n m) :
      SameReading style cs ds (.error (.inner fault n)) (.error (.inner fault m))

inductive SameLength (style : BreakStyle) (c : Char) (r s : List Char) :
    Except RelativeFault Nat → Except RelativeFault Nat → Prop
  | ok (aligned : Aligned style r s n m) : SameLength style c r s (.ok n) (.ok m)
  | error (aligned : Aligned style (c :: r) (c :: s) n m) :
      SameLength style c r s (.error ⟨fault, n⟩) (.error ⟨fault, m⟩)

namespace SameReading

theorem simple {x y : Option Nat} (answers : Answers style cs ds x y) :
    SameReading style cs ds (simpleLength x) (simpleLength y) := by
  cases answers with
  | none => exact .self
  | some aligned => exact .ok aligned

theorem shift {x y : Except Unclosed Nat} (aligned : Aligned style cs ds n m)
    (behind : SameReading style (cs.drop n) (ds.drop m) x y) :
    SameReading style cs ds (shiftLength n x) (shiftLength m y) := by
  cases behind with
  | ok inner => exact .ok (aligned.add inner)
  | self => exact .self
  | inner inner => exact .inner (aligned.add inner)

theorem total {x y : Except Unclosed Nat} (opening : Opening) (solid : isLineBreak c = false)
    (aligned : Aligned style r s opening.ahead opening.ahead)
    (behind : SameReading style (r.drop opening.ahead) (s.drop opening.ahead) x y) :
    SameLength style c r s (opening.total x) (opening.total y) := by
  cases behind with
  | ok inner => exact .ok (aligned.add inner)
  | self => exact .error (zero (.solid solid aligned.whole))
  | inner inner => exact .error ((aligned.solid solid).add inner)

end SameReading

theorem interpolatedLength_lineBreak (lineBreak : isLineBreak c = true) :
    interpolatedLength verbatim holes (c :: r) =
      if holes = 0 ∧ verbatim = false then .error .self
      else shiftLength 1 (interpolatedLength verbatim holes r) := by
  rw [interpolatedLength, Interpolation.move_lineBreak lineBreak]
  by_cases broken : holes = 0 ∧ verbatim = false
  · simp only [if_pos broken]
  · simp only [if_neg broken]
    rfl

theorem interpolatedLength_break (written : b ∈ style.breaks) :
    interpolatedLength verbatim holes (b ++ ds) =
      if holes = 0 ∧ verbatim = false then .error .self
      else shiftLength b.length (interpolatedLength verbatim holes ds) := by
  have pair : ∀ x, shiftLength 1 (shiftLength 1 x) = shiftLength 2 x := by
    rintro ((_ | _) | n)
    · rfl
    · simp only [shiftLength, ← Nat.add_assoc]
    · simp only [shiftLength, ← Nat.add_assoc]
  rcases style.break_cases written with rfl | rfl | rfl
  · exact interpolatedLength_lineBreak rfl
  · exact interpolatedLength_lineBreak rfl
  · refine (interpolatedLength_lineBreak (r := '\n' :: ds) rfl).trans ?_
    rw [interpolatedLength_lineBreak rfl]
    split
    · rfl
    · exact pair _

mutual

theorem Opening.length_rewritten {style : BreakStyle} {c : Char} {r s : List Char}
    {opening : Opening} (rewritten : Rewritten style r s)
    (found : Opening.of? (c :: r) = some opening) :
    SameLength style c r s (opening.length r) (opening.length s) := by
  have inside := Opening.solid_of_of? found
  have solid : isLineBreak c = false := inside c List.mem_cons_self
  have aligned : Aligned style r s opening.ahead opening.ahead :=
    of_solid rewritten fun d member => inside d (List.mem_cons_of_mem c member)
  unfold Opening.length
  refine SameReading.total opening solid aligned ?_
  cases opening.style with
  | plain => exact .simple (delimitedLength?_rewritten aligned.back)
  | verbatim => exact .simple (doubledLength?_rewritten aligned.back)
  | raw quotes => exact .simple (rawLength?_rewritten aligned.back)
  | interpolated verbatim => exact interpolatedLength_rewritten aligned.back
termination_by 2 * r.length + 1
decreasing_by simp only [List.length_drop]; omega

/-- Interpolated strings of the two texts end at the same places, with all that is nested in them.
-/
theorem interpolatedLength_rewritten {style : BreakStyle} {cs ds : List Char} {verbatim : Bool}
    {holes : Nat} (rewritten : Rewritten style cs ds) :
    SameReading style cs ds (interpolatedLength verbatim holes cs)
      (interpolatedLength verbatim holes ds) := by
  cases rewritten with
  | nil =>
    rw [interpolatedLength]
    exact .self
  | @lineBreak b cs ds written behind =>
    rw [interpolatedLength_lineBreak rfl, interpolatedLength_break written]
    split
    · exact .self
    · refine .shift ((zero behind).lineBreak written) ?_
      rw [List.drop_left]
      exact interpolatedLength_rewritten behind
  | @solid c r s solid behind =>
    rw [interpolatedLength, interpolatedLength, Interpolation.move_rewritten behind solid]
    cases found : Interpolation.move verbatim holes c r with
    | broken => exact .self
    | close => exact .ok ((zero behind).solid solid)
    | pass further holes' =>
      have front := of_solid behind (Interpolation.move_pass found)
      exact .shift (front.solid solid) (interpolatedLength_rewritten front.back)
    | character =>
      have literal := delimitedLength?_rewritten (d := '\'') behind
      dsimp only
      generalize delimitedLength? '\'' r = x, delimitedLength? '\'' s = y at literal
      cases literal with
      | none => exact .inner (zero (.solid solid behind))
      | some front => exact .shift (front.solid solid) (interpolatedLength_rewritten front.back)
    | string opening =>
      have literal := Opening.length_rewritten behind (Interpolation.of?_of_move found)
      dsimp only
      generalize opening.length r = x, opening.length s = y at literal
      cases literal with
      | ok front => exact .shift (front.solid solid) (interpolatedLength_rewritten front.back)
      | error front => exact .inner front
termination_by 2 * cs.length
decreasing_by all_goals simp only [List.length_drop, List.length_cons]; omega

end

namespace Form

variable {lineStart : Bool}

theorem of?_rewritten (rewritten : Rewritten style r s) (solid : isLineBreak c = false) :
    of? lineStart c s = of? lineStart c r := by
  have opening : Opening.of? (c :: s) = Opening.of? (c :: r) := (rewritten.solid solid).opening
  have wordStart : s.head?.any isWordStart = r.head?.any isWordStart :=
    rewritten.any_head? (by decide)
  unfold of?
  simp only [opening, wordStart, rewritten.head?_iff (c := '/') rfl,
    rewritten.head?_iff (c := '*') rfl]

theorem Starts.ne_lineBreak {form : Form} (starts : Starts lineStart c r form)
    (solid : isLineBreak c = false) : form ≠ .lineBreak := by
  rintro rfl
  cases starts with
  | lineBreak found =>
    rw [solid] at found
    contradiction

theorem length_rewritten {form : Form} (rewritten : Rewritten style r s)
    (solid : isLineBreak c = false) (starts : Starts lineStart c r form) :
    SameLength style c r s (form.length c r) (form.length c s) := by
  have other := starts.ne_lineBreak solid
  cases starts with
  | lineBreak => exact absurd rfl other
  | directive | lineComment | blanks | word | verbatimWord =>
    exact .ok (.runLength rewritten (by decide) (by decide))
  | blockComment _ next =>
    obtain ⟨r, rfl⟩ := List.head?_eq_some_iff.mp next
    obtain ⟨s, rfl, inner⟩ := rewritten.exists_solid rfl
    have comment := commentLength?_rewritten inner
    simp only [length, List.drop_one, List.tail_cons]
    generalize commentLength? r = x, commentLength? s = y at comment
    cases comment with
    | none => exact .error (zero (.solid solid rewritten))
    | some aligned => exact .ok (aligned.solid rfl)
  | string found => exact Opening.length_rewritten rewritten found
  | character =>
    have literal := delimitedLength?_rewritten (d := '\'') rewritten
    simp only [length]
    generalize delimitedLength? '\'' r = x, delimitedLength? '\'' s = y at literal
    cases literal with
    | none => exact .error (zero (.solid solid rewritten))
    | some aligned => exact .ok aligned
  | number => exact .ok (.numberLength rewritten)
  | mark => exact .ok (zero rewritten)

end Form

structure Piece.Rewritten (style : BreakStyle) (p q : Piece) : Prop where
  form : q.form = p.form
  text : Highlight.Rewritten style p.text q.text
  lineBreak : q.form = .lineBreak → q.text ∈ style.breaks

structure Obstacle.Rewritten (style : BreakStyle) (o o' : Obstacle) : Prop where
  fault : o'.fault = o.fault
  skipped : Highlight.Rewritten style o.skipped o'.skipped

namespace Segmentation

structure Rewritten (style : BreakStyle) (cut cut' : Segmentation) : Prop where
  pieces : List.Forall₂ (Piece.Rewritten style) cut.pieces cut'.pieces
  obstacle? : Option.Rel (Obstacle.Rewritten style) cut.obstacle? cut'.obstacle?

theorem exists_of_break (written : b ∈ style.breaks) (behind : Highlight.Rewritten style cs ds) :
    ∃ piece : Piece, piece.form = .lineBreak ∧ piece.text = b ∧
      ∀ lineStart, of lineStart (b ++ ds) =
        ⟨piece :: (of true ds).pieces, (of true ds).obstacle?⟩ := by
  rcases style.break_cases written with rfl | rfl | rfl
  · exact ⟨⟨.lineBreak, '\n', []⟩, rfl, rfl, fun _ => of_append rfl rfl⟩
  · have alone : ds.head? ≠ some '\n' := by
      cases behind with
      | nil => nofun
      | solid solid => exact fun feed => ne_of_isLineBreak rfl solid (Option.some.inj feed).symm
      | lineBreak next =>
        rcases style.break_cases next with rfl | rfl | rfl
        · exact absurd next (style.apart written)
        · nofun
        · nofun
    refine ⟨⟨.lineBreak, '\r', []⟩, rfl, rfl, fun _ => of_append rfl ?_⟩
    simp [Form.length, alone]
  · exact ⟨⟨.lineBreak, '\r', ['\n']⟩, rfl, rfl, fun _ => of_append rfl rfl⟩

/-- The two texts are cut into the same pieces, up to their line breaks. -/
theorem of_rewritten {style : BreakStyle} {cs ds : List Char} {lineStart : Bool}
    (rewritten : Highlight.Rewritten style cs ds) :
    Rewritten style (of lineStart cs) (of lineStart ds) := by
  cases rewritten with
  | nil =>
    rw [of]
    exact ⟨.nil, .none⟩
  | @lineBreak b cs ds written behind =>
    have feed : of lineStart ('\n' :: cs) =
        ⟨⟨.lineBreak, '\n', []⟩ :: (of true cs).pieces, (of true cs).obstacle?⟩ := by
      rw [← List.nil_append cs]
      exact of_append rfl rfl
    obtain ⟨piece, form, text, cut⟩ := exists_of_break written behind
    have rest : Rewritten style (of true cs) (of true ds) := of_rewritten behind
    obtain ⟨pieces, obstacle⟩ := rest
    rw [feed, cut]
    refine ⟨.cons ⟨form, ?_, fun _ => text ▸ written⟩ pieces, obstacle⟩
    have single := Highlight.Rewritten.lineBreak written .nil
    rwa [← text, List.append_nil] at single
  | @solid c r s solid behind =>
    rw [of, of, Form.of?_rewritten behind solid]
    cases found : Form.of? lineStart c r with
    | none => exact ⟨.nil, .some ⟨rfl, .nil⟩⟩
    | some form =>
      have starts := Form.of?_eq_some.mp found
      have reach := Form.length_rewritten behind solid starts
      dsimp only
      generalize form.length c r = x, form.length c s = y at reach
      cases reach with
      | error aligned => exact ⟨.nil, .some ⟨rfl, aligned.front⟩⟩
      | ok aligned =>
        obtain ⟨pieces, obstacle⟩ := of_rewritten aligned.back
        refine ⟨.cons ⟨rfl, .solid solid aligned.front, fun lineBreak => ?_⟩ pieces, obstacle⟩
        exact absurd lineBreak (starts.ne_lineBreak solid)
termination_by cs.length
decreasing_by all_goals simp only [List.length_drop, List.length_cons]; omega

end Segmentation

end Highlight
