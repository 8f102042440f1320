import Highlight.Proofs.Lexeme.Composition

/-! A text may end behind any of its lexemes. What a reader has looked at behind a lexeme never made
the lexeme shorter or gave it another form than it has at the end of a text. -/
namespace Highlight

variable {c : Char} {front rest : List Char} {lineStart : Bool}

theorem head?_append_eq_some (head : front.head? = some c) : (front ++ rest).head? = some c := by
  rw [List.head?_append, head]
  rfl

theorem any_head?_append {p : Char → Bool} (head : front.head?.any p = true) :
    (front ++ rest).head?.any p = true := by
  obtain ⟨d, found, inside⟩ := (Option.any_eq_true ..).mp head
  rw [head?_append_eq_some found]
  exact inside

theorem runLength_append_le (p : Char → Bool) (front rest : List Char) :
    runLength p front ≤ runLength p (front ++ rest) := by
  induction front with
  | nil => exact Nat.zero_le _
  | cons c front ih =>
    rw [List.cons_append, runLength_cons, runLength_cons]
    split
    · exact Nat.succ_le_succ ih
    · exact Nat.le_refl 0

namespace Opening

/-- With more quotes an opening is still one, if only of a raw string. -/
theorem Made.mono {opening : Opening} (made : Made sigils quotes opening) (le : quotes ≤ quotes') :
    ∃ opening', Made sigils quotes' opening' := by
  cases made with
  | raw noAt many => exact ⟨_, .raw noAt (Nat.le_trans many le)⟩
  | plain noAt noDollar some =>
    by_cases few : quotes' < 3
    · exact ⟨_, .plain noAt noDollar (Nat.lt_of_lt_of_le some le) few⟩
    · exact ⟨_, .raw noAt (Nat.not_lt.mp few)⟩
  | interpolated noAt dollar some =>
    by_cases few : quotes' < 3
    · exact ⟨_, .interpolated noAt dollar (Nat.lt_of_lt_of_le some le) few⟩
    · exact ⟨_, .raw noAt (Nat.not_lt.mp few)⟩
  | verbatim oneAt noDollar some => exact ⟨_, .verbatim oneAt noDollar (Nat.lt_of_lt_of_le some le)⟩
  | verbatimInterpolated oneAt dollar some =>
    exact ⟨_, .verbatimInterpolated oneAt dollar (Nat.lt_of_lt_of_le some le)⟩

/-- What opens no string opens none when the text ends earlier. -/
theorem of?_truncate (noString : of? (front ++ rest) = none) : of? front = none := by
  cases found : of? front with
  | none => rfl
  | some opening =>
    obtain ⟨behind, quote⟩ := exists_dropWhile found
    have whole := List.takeWhile_append_dropWhile (p := isStringSigil) (l := front)
    have sigils : ∀ c ∈ front.takeWhile isStringSigil, isStringSigil c = true :=
      List.all_eq_true.mp List.all_takeWhile
    rw [quote] at whole
    rw [← whole] at found noString
    rw [List.append_assoc, List.cons_append] at noString
    obtain ⟨opening', more⟩ :=
      ((of?_written sigils).mp found).mono (Nat.succ_le_succ (runLength_append_le _ behind rest))
    rw [(of?_written sigils).mpr more] at noString
    contradiction

end Opening

theorem numberLength_truncate (stop : numberLength (front ++ rest) = 0) :
    numberLength front = 0 := by
  cases front with
  | nil => rfl
  | cons c front =>
    rw [List.cons_append, numberLength] at stop
    rw [numberLength]
    split
    · next inside =>
      refine absurd stop ?_
      rw [if_pos]
      · exact Nat.succ_ne_zero _
      · simp only [Bool.or_eq_true, Bool.and_eq_true] at inside ⊢
        exact inside.imp_right fun point => ⟨point.1, any_head?_append point.2⟩
    · rfl

theorem Form.of?_mark_truncate (mark : of? lineStart c (front ++ rest) = some .mark) :
    of? lineStart c front = some .mark := by
  refine of?_of_starts ?_
  cases starts_of_of? mark with
  | mark found noDirective noComment noString noCharacter noWord noVerbatim =>
    refine .mark found noDirective ?_ (Opening.of?_truncate noString) noCharacter noWord ?_
    · intro slash
      obtain ⟨noLine, noBlock⟩ := noComment slash
      exact ⟨mt head?_append_eq_some noLine, mt head?_append_eq_some noBlock⟩
    · intro sigil
      have noStart := Bool.eq_false_iff.mp (noVerbatim sigil)
      exact Bool.eq_false_iff.mpr (mt any_head?_append noStart)

namespace Piece

variable {piece : Piece} {ps qs : List Piece}

theorem Cuts.truncate (cuts : piece.Cuts lineStart (front ++ rest)) :
    piece.Cuts lineStart front :=
  cuts.exchange any_head?_append cuts.lineStart_of_directive
    (fun number => numberLength_truncate (cuts.numberLength_eq_zero number))
    (fun mark => Form.of?_mark_truncate (cuts.of?_of_mark mark))

/-- Pieces are cut in the same way when the text ends behind them. -/
theorem Chain.truncate (chain : Chain lineStart (ps ++ qs) rest) : Chain lineStart ps [] := by
  induction ps generalizing lineStart with
  | nil => trivial
  | cons piece ps ih =>
    rw [List.cons_append] at chain
    obtain ⟨cuts, behind⟩ := chain
    rw [List.flatMap_append, List.append_assoc] at cuts
    refine ⟨?_, ih behind⟩
    rw [List.append_nil]
    exact cuts.truncate

theorem take_locate (p : Position) (ps : List Piece) (n : Nat) :
    (locate p ps).take n = locate p (ps.take n) := by
  induction ps generalizing p n with
  | nil => rw [List.take_nil, locate, List.take_nil]
  | cons piece ps ih =>
    cases n with
    | zero => rfl
    | succ n => exact congrArg (_ :: ·) (ih (piece.advance p) n)

end Piece

/-- Cut off behind any of its lexemes, be it in front of an error, a text has the lexemes up to
there, and no error. -/
theorem lex_take (text : String) (n : Nat) :
    lex (leadingMark text ++ String.join (((Lexing.of text).lexemes.take n).map Lexeme.text)) =
      .ok ((Lexing.of text).lexemes.take n) := by
  obtain ⟨rest, _, chain, _⟩ := Segmentation.exists_chain true (Lexing.content text.toList).2
  have lexemes : (Lexing.of text).lexemes.take n =
      Piece.locate (Lexing.content text.toList).1
        ((Segmentation.of true (Lexing.content text.toList).2).pieces.take n) :=
    Piece.take_locate _ _ n
  generalize (Segmentation.of true (Lexing.content text.toList).2).pieces = ps at chain lexemes
  rw [← List.take_append_drop n ps] at chain
  have whole := chain.truncate
  have noMark := whole.head? nofun
  rw [List.append_nil] at noMark
  have content := Lexing.content_leadingMark text noMark
  rw [lexemes, Piece.join_locate]
  refine lex_eq_ok.mpr ⟨ps.take n, whole, ?_, ?_⟩
  · rw [String.toList_append, String.toList_ofList, content]
  · rw [String.toList_append, String.toList_ofList, content]

/-- Three sigils behind which a string starts, in front of a string without an end. -/
example : lex "$$$\"\"x\"" = .error ⟨.unterminatedString, ⟨1, 7, 6⟩⟩ ∧
    lex "$$$\"\"x" = .ok ((Lexing.of "$$$\"\"x\"").lexemes.take 4) := by
  decide +kernel

end Highlight
