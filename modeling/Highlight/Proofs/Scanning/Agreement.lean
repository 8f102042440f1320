import Highlight.Proofs.Lexeme.Tiling
import Highlight.Proofs.Scanning.Readers

/-! A scan finds the lexemes that the text is cut into, and fails where the cutting ends early. -/
namespace Highlight

def Form.reader (c : Char) : Form → Point
  | .lineBreak => .lineBreak
  | .directive => .run .directive
  | .blanks => .run .blanks
  | .lineComment => .run .lineComment
  | .blockComment => .commentOpening
  | .string _ => Scan.stringReader c
  | .character => .characterOpening
  | .number => .number
  | .word => .wordOpening
  | .mark => .mark

/-- The reader that is chosen is the one of the form. -/
theorem reader?_eq (lineStart : Bool) (c : Char) (r : List Char) :
    reader? lineStart (isStringSigil c && (Opening.of? (c :: r)).isSome) c r =
      (Form.of? lineStart c r).map (Form.reader c) := by
  unfold reader? Form.of?
  simp only [apply_ite (Option.map (Form.reader c)), Option.map_some]
  iterate 5 refine if_congr Iff.rfl rfl ?_
  cases found : Opening.of? (c :: r) with
  | some opening =>
    have head := Opening.head_of_of? found
    dsimp only [Option.map_some, Form.reader, Scan.stringReader]
    grind [isStringSigil]
  | none =>
    have noQuote : c ≠ '"' := by
      rintro rfl
      have some := Scan.isSome_of?_quote r
      rw [found] at some
      contradiction
    simp only [apply_ite (Option.map (Form.reader c)), Option.map_some, Option.map_none,
      Option.isSome_none, Bool.and_false]
    rw [if_neg noQuote, if_neg (by decide)]
    iterate 2 refine if_congr Iff.rfl rfl ?_
    -- The scan asks for an `@` in front of a word apart from the words without it.
    grind [Form.reader]

namespace Segmentation

/-- What a text is read as that is cut so, from the place `p` on. -/
def answer (p : Position) (cut : Segmentation) : Except LexError (List Lexeme) :=
  match cut.obstacle? with
  | some o => .error ⟨o.fault, (cut.pieces.foldl Piece.advance p).after o.skipped⟩
  | none => .ok (Piece.locate p cut.pieces)

theorem answer_cons (p : Position) (piece : Piece) (cut : Segmentation) :
    answer p ⟨piece :: cut.pieces, cut.obstacle?⟩ =
      (cut.answer (piece.advance p)).map
        (⟨piece.form.kind, String.ofList piece.text, p⟩ :: ·) := by
  unfold answer
  cases cut.obstacle? <;> rfl

end Segmentation

theorem lex_eq (text : String) :
    lex text = (Segmentation.of true (Lexing.content text.toList).2).answer
      (Lexing.content text.toList).1 := by
  unfold lex Lexing.of Segmentation.answer
  dsimp only
  cases (Segmentation.of true (Lexing.content text.toList).2).obstacle? <;> rfl

def Outcome.of : Except LexError (List Lexeme) → Outcome
  | .ok xs => .done xs
  | .error e => .failed e

namespace Scan

variable {s : Scan} {k : Cursor} {front rest : List Char} {c : Char} {r : List Char}
  {p : Position} {below : List Frame} {form : Form} {lineStart : Bool}

theorem runs_run {f : Run} (between : k.Between front rest) :
    (s.on k (⟨.run f, p⟩ :: below)).Runs
      (s.on (k.after (rest.take (runLength f.takes rest))) (⟨.ended f.kind, p⟩ :: below)) := by
  induction rest generalizing k front with
  | nil => exact runs_pass between (Nat.zero_le _) rfl
  | cons c r ih =>
    have moves : (Point.run f).moveAt (c :: r) =
        if f.takes c then .pass 1 (.run f) else .pass 0 (.ended f.kind) := rfl
    rw [runLength_cons]
    cases takes : f.takes c with
    | false =>
      rw [takes] at moves
      exact runs_pass between (Nat.zero_le _) moves
    | true =>
      rw [takes] at moves
      exact (runs_pass_one between moves).trans (ih between.next)

theorem runs_number (between : k.Between front rest) :
    (s.on k (⟨.number, p⟩ :: below)).Runs
      (s.on (k.after (rest.take (numberLength rest))) (⟨.ended .literal, p⟩ :: below)) := by
  fun_induction numberLength rest generalizing k front with
  | case1 => exact runs_pass between (Nat.zero_le _) rfl
  | case2 c r inside ih =>
    have moves : Point.number.moveAt (c :: r) = _ := if_pos inside
    exact (runs_pass_one between moves).trans (ih between.next)
  | case3 c r outside =>
    have moves : Point.number.moveAt (c :: r) = _ := if_neg outside
    exact runs_pass between (Nat.zero_le _) moves

theorem finds_run {f : Run} (takes : f.takes c = true) (between : k.Between front (c :: r)) :
    Finds s below f.kind (.run f) k c r (.ok (runLength f.takes r)) := by
  have runs : (s.on k (⟨.run f, k.position⟩ :: below)).Runs _ := runs_run between
  rw [runLength_cons, if_pos takes] at runs
  exact .ok (runLength_le _ r) runs

theorem finds_number (digit : c.isDigit = true) (between : k.Between front (c :: r)) :
    Finds s below .literal .number k c r (.ok (numberLength r)) := by
  have runs : (s.on k (⟨.number, k.position⟩ :: below)).Runs _ := runs_number between
  rw [numberLength, if_pos (by simp [Char.isAlphanum, digit])] at runs
  exact .ok (numberLength_le r) runs

theorem finds_word (start : c = '@' ∨ isWordStart c = true) (between : k.Between front (c :: r)) :
    Finds s below .word .wordOpening k c r (.ok (runLength isWordContinue r)) := by
  have moves : Point.wordOpening.moveAt (c :: r) =
      .pass (if c = '@' then 1 else 0) (.run .word) := by
    simp [Point.moveAt, Point.moveWith]
  refine .ok (runLength_le _ r) ?_
  by_cases verbatim : c = '@'
  · rw [if_pos verbatim] at moves
    exact (runs_pass_one between moves).trans (runs_run (f := .word) between.next)
  · rw [if_neg verbatim] at moves
    have inside := isWordContinue_of_isWordStart (start.resolve_left verbatim)
    have word : Finds s below _ _ k c r _ := finds_run (f := .word) inside between
    cases word with
    | ok _ runs => exact (runs_pass between (Nat.zero_le _) moves).trans runs

theorem finds_comment (second : r.head? = some '*') (between : k.Between front (c :: r)) :
    Finds s below .comment .commentOpening k c r (Form.blockComment.length c r) := by
  obtain ⟨r, rfl⟩ := List.head?_eq_some_iff.mp second
  have first : (s.on k (⟨.commentOpening, k.position⟩ :: below)).Runs
      (s.on (k.after [c, '*']) (⟨.comment, k.position⟩ :: below)) :=
    runs_pass between (Nat.le_add_left 2 _) rfl
  have behind : Reads s k.position below _ _ _ (k.after [c, '*']) r _ :=
    reads_comment (between.drop 2)
  simp only [Form.length, List.drop_one, List.tail_cons]
  generalize commentLength? r = answer at behind
  cases answer with
  | none =>
    cases behind with
    | self fails => exact .error (first.fails fails)
  | some n =>
    cases behind with
    | ok inside runs => exact .ok (Nat.succ_le_succ inside) (first.trans runs)

/-- The readers of all lexemes but line breaks end where the forms do. -/
theorem finds_form (starts : form.Starts lineStart c r) (solid : form ≠ .lineBreak)
    (between : k.Between front (c :: r)) :
    Finds s below form.kind (form.reader c) k c r (form.length c r) := by
  cases starts with
  | lineBreak => contradiction
  | directive _ found =>
    subst found
    exact finds_run (f := .directive) rfl between
  | blanks found => exact finds_run (f := .blanks) found between
  | lineComment slash =>
    subst slash
    exact finds_run (f := .lineComment) rfl between
  | blockComment _ next => exact finds_comment next between
  | string found => exact finds_string found between
  | character => exact finds_character between
  | number digit => exact finds_number digit between
  | word start => exact finds_word (.inr start) between
  | verbatimWord sigil => exact finds_word (.inl sigil) between
  | mark => exact .ok (Nat.zero_le _) (runs_pass_one between rfl)

theorem runs_lineBreak (found : isLineBreak c = true) (between : k.Between front (c :: r))
    (length : Form.lineBreak.length c r = .ok n) :
    (s.on k (⟨.lineBreak, k.position⟩ :: below)).Runs
      (s.on { k with position := k.position.afterBreak (c :: r.take n) }
        (⟨.ended .newline, k.position⟩ :: below)) := by
  obtain rfl := Except.ok.inj length
  have first : Point.lineBreak.moveAt (c :: r) =
      .pass 1 (if c = '\r' then .behindReturn else .ended .newline) := by
    simp [Point.moveAt, Point.moveWith]
  simp only [isLineBreak, Bool.or_eq_true, decide_eq_true_eq] at found
  rcases found with rfl | rfl
  · exact runs_pass_one between first
  have second : Point.behindReturn.moveAt r =
      if r.head? = some '\n' then .pass 1 (.ended .newline) else .newLine := rfl
  by_cases feed : r.head? = some '\n'
  · obtain ⟨r, rfl⟩ := List.head?_eq_some_iff.mp feed
    exact (runs_pass_one between first).trans (runs_pass_one between.next second)
  · rw [if_neg feed] at second
    rw [if_neg (by simp [feed])]
    have alone : (s.on (k.after ['\r']) (⟨.behindReturn, k.position⟩ :: below)).step = _ :=
      step_act between.next rfl rfl rfl second
    exact (runs_pass_one between first).trans (runs_of_step alone)

theorem runs_piece (starts : form.Starts lineStart c r) (length : form.length c r = .ok n)
    (between : k.Between front (c :: r)) :
    (s.on k (⟨form.reader c, k.position⟩ :: below)).Runs
      (s.on { k with position := Piece.advance k.position ⟨form, c, r.take n⟩ }
        (⟨.ended form.kind, k.position⟩ :: below)) := by
  by_cases lineBreak : form = .lineBreak
  · subst lineBreak
    cases starts with
    | lineBreak found => exact runs_lineBreak found between length
  · rw [Piece.advance, if_neg lineBreak]
    have finds : Finds s below _ _ k c r _ := finds_form starts lineBreak between
    rw [length] at finds
    cases finds with
    | ok _ runs => exact runs

theorem between_piece (form : Form) (n : Nat) (between : k.Between front (c :: r)) :
    Cursor.Between { k with position := Piece.advance k.position ⟨form, c, r.take n⟩ }
      (front ++ (c :: r.take n)) (r.drop n) where
  text := (between.drop (n + 1)).text
  offset := by rw [Piece.offset_advance, between.offset, byteLength_append]; rfl

/-- A reader comes to the end of its lexeme, and puts it down. -/
theorem runs_lexeme (starts : form.Starts lineStart c r) (length : form.length c r = .ok n)
    (between : k.Between front (c :: r)) :
    (s.on k [⟨form.reader c, k.position⟩]).Runs
      (on { s with
        lexemes := ⟨form.kind, String.ofList (c :: r.take n), k.position⟩ :: s.lexemes
        lineStart := form.keepsLineStart s.lineStart }
        { k with position := Piece.advance k.position ⟨form, c, r.take n⟩ } []) := by
  have lineStart : (decide (form.kind = .newline) ||
      decide (form.kind = .whitespace) && s.lineStart) = form.keepsLineStart s.lineStart := by
    cases form <;> rfl
  rw [← lineStart]
  exact (runs_piece starts length between).trans
    (runs_close between.offset (between_piece form n between))

/-- A reader fails where the length of its form does. -/
theorem fails_piece (starts : form.Starts lineStart c r) (length : form.length c r = .error e)
    (between : k.Between front (c :: r)) :
    (s.on k (⟨form.reader c, k.position⟩ :: below)).Fails
      ⟨e.fault, k.position.after ((c :: r).take e.ahead)⟩ := by
  have solid : form ≠ .lineBreak := by
    rintro rfl
    contradiction
  have finds : Finds s below _ _ k c r _ := finds_form starts solid between
  rw [length] at finds
  cases finds with
  | error fails => exact fails

theorem step_form (between : k.Between front (c :: r)) :
    (s.on k []).step = .ok (match Form.of? s.lineStart c r with
      | some form => .more (s.on k [⟨form.reader c, k.position⟩])
      | none => .failed ⟨.unexpectedCharacter c, k.position⟩) := by
  rw [step_begin between rfl rfl rfl, begin_cons, reader?_eq]
  simp only [on]
  cases Form.of? s.lineStart c r <;> rfl

/-- What is read from the cursor on is what the text there is cut into. -/
theorem ends {s : Scan} {k : Cursor} {front cs : List Char} (between : k.Between front cs) :
    ∃ t, (s.on k []).Runs t ∧ t.step = .ok (.of
      (((Segmentation.of s.lineStart cs).answer k.position).map (s.lexemes.reverse ++ ·))) := by
  cases whole : cs with
  | nil =>
    rw [whole] at between
    refine ⟨_, .refl _, ?_⟩
    rw [step_begin between rfl rfl rfl, Segmentation.of]
    exact congrArg (fun xs => Except.ok (Outcome.done xs)) (List.append_nil _).symm
  | cons c r =>
    rw [whole] at between
    have first : (s.on k []).step = _ := step_form between
    rw [Segmentation.of]
    cases found : Form.of? s.lineStart c r with
    | none =>
      rw [found] at first
      exact ⟨_, .refl _, first⟩
    | some form =>
      rw [found] at first
      have starts := Form.of?_eq_some.mp found
      have first := runs_of_step first
      dsimp only
      cases length : form.length c r with
      | error e => exact first.fails (fails_piece starts length between)
      | ok n =>
        -- The lexeme is read to its end, and the scan begins anew behind it.
        obtain ⟨t, runs, answer⟩ := ends (between_piece form n between)
        refine ⟨t, first.trans ((runs_lexeme starts length between).trans runs), answer.trans ?_⟩
        rw [Segmentation.answer_cons]
        dsimp only
        generalize Segmentation.answer _ _ = behind
        cases behind with
        | error e => rfl
        | ok xs => simp [Except.map, Piece.text]
termination_by cs.length
decreasing_by simp only [whole, List.length_drop, List.length_cons]; omega

end Scan
end Highlight
