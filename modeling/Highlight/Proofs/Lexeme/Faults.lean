import Mathlib.Algebra.Ring.Parity
import Highlight.Proofs.Lexeme.Interpolated
import Highlight.Proofs.Lexeme.Lines
import Highlight.Proofs.Lexeme.Truncation

/-! Faults are justified. What the lexer says is missing behind the place that it names is missing
there, up to the end of the line or of the text, be it in a hole of another literal. -/
namespace Highlight

/-- The line ends in front of any `delimiter`. A backslash goes with the character behind it, unless
the line ends there. -/
inductive Undelimited (delimiter : Char) : List Char → Prop
  | stop (ends : ∀ c ∈ body.head?, isLineBreak c = true) : Undelimited delimiter body
  | escape (solid : isLineBreak c = false) (behind : Undelimited delimiter body) :
      Undelimited delimiter ('\\' :: c :: body)
  | pass (solid : isLineBreak c = false) (other : c ≠ delimiter)
      (single : c = '\\' → ∀ d ∈ body.head?, isLineBreak d = true)
      (behind : Undelimited delimiter body) : Undelimited delimiter (c :: body)

def EvenRuns (cs : List Char) : Prop :=
  ∀ front n back, cs = front ++ (List.replicate n '"' ++ back) → front.getLast? ≠ some '"' →
    back.head? ≠ some '"' → Even n

/-- Behind its opening, a string of the style has no end. -/
def StringStyle.Endless (cs : List Char) : StringStyle → Prop
  | .plain => Undelimited '"' cs
  | .verbatim => EvenRuns cs
  | .raw quotes => ¬List.replicate quotes '"' <:+: cs
  | .interpolated v =>
    ∀ body rest, cs = body ++ rest → rest.head? ≠ some '"' → ¬Interpolation.Content v body

/-- What a fault says of the text that starts where it is. -/
def LexFault.Justified (cs : List Char) : LexFault → Prop
  | .unexpectedCharacter c =>
    cs.head? = some c ∧ isLineBreak c = false ∧ isBlank c = false ∧ isPunctuation c = false ∧
      c.isDigit = false ∧ isWordStart c = false
  | .unterminatedComment => ∃ body, cs = '/' :: '*' :: body ∧ ¬['*', '/'] <:+: body
  | .unterminatedCharacter => ∃ body, cs = '\'' :: body ∧ Undelimited '\'' body
  | .unterminatedString =>
    ∃ opening, Opening.of? cs = some opening ∧ opening.style.Endless (cs.drop (opening.ahead + 1))

/-- Only literals are nested in other literals. -/
def LexFault.inLiteral : LexFault → Bool
  | .unterminatedString | .unterminatedCharacter => true
  | .unterminatedComment | .unexpectedCharacter _ => false

variable {cs front back r : List Char} {c d : Char} {lineStart : Bool}

/-- A reader that finds no delimiter has met the end of the line first. -/
theorem undelimited_of_none (endless : delimitedLength? d cs = none) : Undelimited d cs := by
  have none : Undelimited d [] := .stop nofun
  have stop {c r} (lineBreak : isLineBreak c = true) : Undelimited d (c :: r) :=
    .stop fun e head => Option.some.inj head ▸ lineBreak
  fun_induction delimitedLength? d cs with
  | case1 => exact none
  | case2 c r lineBreak => exact stop lineBreak
  | case3 => contradiction
  | case4 solid other => exact .pass rfl other (fun _ _ head => absurd head (by simp)) none
  | case5 e r lineBreak solid other =>
    exact .pass rfl other (fun _ f head => Option.some.inj head ▸ lineBreak) (stop lineBreak)
  | case6 e r inside solid other ih =>
    exact .escape (Bool.not_eq_true _ ▸ inside) (ih (Option.map_eq_none_iff.mp endless))
  | case7 c r solid other plain ih =>
    exact .pass (Bool.not_eq_true _ ▸ solid) other (fun escape => absurd escape plain)
      (ih (Option.map_eq_none_iff.mp endless))

theorem EvenRuns.pair (behind : EvenRuns r) : EvenRuns ('"' :: '"' :: r) := by
  intro front n back split last edge
  match front, n with
  | [], 0 => exact .zero
  | [], 1 =>
    obtain ⟨_, rfl⟩ := List.cons_eq_cons.mp split
    exact absurd rfl edge
  | [], n + 2 =>
    obtain ⟨_, split⟩ := List.cons_eq_cons.mp split
    obtain ⟨_, split⟩ := List.cons_eq_cons.mp split
    exact (behind [] n back split nofun edge).add even_two
  | [e], n =>
    obtain ⟨rfl, _⟩ := List.cons_eq_cons.mp split
    exact absurd rfl last
  | e :: f :: front, n =>
    obtain ⟨_, split⟩ := List.cons_eq_cons.mp split
    obtain ⟨_, split⟩ := List.cons_eq_cons.mp split
    exact behind front n back split
      (fun quote => last (getLast?_cons_of_some (getLast?_cons_of_some quote))) edge

theorem EvenRuns.pass (other : c ≠ '"') (behind : EvenRuns r) : EvenRuns (c :: r) := by
  intro front n back split last edge
  match front, n with
  | [], 0 => exact .zero
  | [], n + 1 => exact absurd (List.cons_eq_cons.mp split).1 other
  | e :: front, n =>
    exact behind front n back (List.cons_eq_cons.mp split).2
      (fun quote => last (getLast?_cons_of_some quote)) edge

theorem evenRuns_of_none (endless : doubledLength? cs = none) : EvenRuns cs := by
  fun_induction doubledLength? cs with
  | case1 =>
    intro front n back split _ _
    have size := congrArg List.length split
    simp only [List.length_nil, List.length_append, List.length_replicate] at size
    obtain rfl : n = 0 := by omega
    exact .zero
  | case2 | case4 => contradiction
  | case3 r ih => exact .pair (ih (Option.map_eq_none_iff.mp endless))
  | case5 c r other ih => exact .pass other (ih (Option.map_eq_none_iff.mp endless))

theorem rawLength?_ne_none (enough : quotes ≤ run) (cs : List Char) :
    rawLength? quotes run cs ≠ none := by
  induction cs generalizing run with
  | nil => simp [rawLength?, enough]
  | cons c cs ih =>
    rw [rawLength?]
    split
    · exact mt Option.map_eq_none_iff.mp (ih (Nat.le_succ_of_le enough))
    · exact Option.some_ne_none 0

theorem rawLength?_replicate (enough : quotes ≤ run + more) :
    rawLength? quotes run (List.replicate more '"' ++ back) ≠ none := by
  induction more generalizing run with
  | zero => exact rawLength?_ne_none enough back
  | succ more ih =>
    rw [List.replicate_succ, List.cons_append, rawLength?, if_pos rfl]
    exact mt Option.map_eq_none_iff.mp (ih (by omega))

/-- A raw string without an end holds no run of as many quotes as opened it. -/
theorem not_run_of_none (endless : rawLength? quotes 0 cs = none) :
    ¬List.replicate quotes '"' <:+: cs := by
  have found (front back : List Char) (run : Nat) :
      rawLength? quotes run (front ++ (List.replicate quotes '"' ++ back)) ≠ none := by
    induction front generalizing run with
    | nil => exact rawLength?_replicate (Nat.le_add_left ..)
    | cons c front ih =>
      rw [List.cons_append, rawLength?]
      split
      · exact mt Option.map_eq_none_iff.mp (ih _)
      · split
        · exact Option.some_ne_none _
        · exact mt Option.map_eq_none_iff.mp (ih _)
  rintro ⟨front, back, rfl⟩
  rw [List.append_assoc] at endless
  exact found front back 0 endless

theorem not_end_of_none (endless : commentLength? cs = none) : ¬['*', '/'] <:+: cs := by
  rintro ⟨front, back, rfl⟩
  induction front with
  | nil => contradiction
  | cons c front ih =>
    rw [List.append_assoc, List.cons_append, commentLength?] at endless
    split at endless
    · contradiction
    · rw [← List.append_assoc] at endless
      exact ih (Option.map_eq_none_iff.mp endless)

theorem shiftLength_eq_inner {answer : Except Unclosed Nat} :
    shiftLength k answer = .error (.inner fault n) ↔
      ∃ m, answer = .error (.inner fault m) ∧ n = k + m := by
  rcases answer with (_ | ⟨inner, m⟩) | m
  · simp [shiftLength]
  · simp only [shiftLength, Except.error.injEq, Unclosed.inner.injEq]
    constructor
    · rintro ⟨same, size⟩
      exact ⟨m, ⟨same, rfl⟩, size.symm⟩
    · rintro ⟨_, ⟨same, rfl⟩, size⟩
      exact ⟨same, size.symm⟩
  · simp [shiftLength]

theorem Interpolation.move_eq_character (found : move verbatim holes c r = .character) :
    c = '\'' := by
  unfold move at found
  grind

/-- A fault inside of an interpolated string comes from a literal at its head, or from behind what
it passes. -/
theorem interpolatedLength_eq_inner
    (failed : interpolatedLength verbatim holes (c :: r) = .error (.inner fault ahead)) :
    c = '\'' ∧ delimitedLength? '\'' r = none ∧ fault = .unterminatedCharacter ∧ ahead = 0 ∨
      (∃ opening, Opening.of? (c :: r) = some opening ∧ opening.length r = .error ⟨fault, ahead⟩) ∨
        ∃ taken holes' m, interpolatedLength verbatim holes' (r.drop taken) =
          .error (.inner fault m) ∧ ahead = taken + 1 + m := by
  rw [interpolatedLength] at failed
  split at failed
  · cases failed
  · cases failed
  · obtain ⟨m, behind, size⟩ := shiftLength_eq_inner.mp failed
    exact .inr (.inr ⟨_, _, m, behind, size⟩)
  · next found =>
    split at failed
    · next endless =>
      cases failed
      exact .inl ⟨Interpolation.move_eq_character found, endless, rfl, rfl⟩
    · obtain ⟨m, behind, size⟩ := shiftLength_eq_inner.mp failed
      exact .inr (.inr ⟨_, _, m, behind, size⟩)
  · next found =>
    split at failed
    · next e endless =>
      cases failed
      exact .inr (.inl ⟨_, Interpolation.of?_of_move found, endless⟩)
    · obtain ⟨m, behind, size⟩ := shiftLength_eq_inner.mp failed
      exact .inr (.inr ⟨_, _, m, behind, size⟩)

structure RelativeFault.Justified (cs : List Char) (e : RelativeFault) : Prop where
  literal : e.fault.inLiteral = true
  behind : e.fault.Justified (cs.drop e.ahead)

theorem RelativeFault.Justified.shift {taken ahead : Nat} {fault : LexFault}
    (justified : RelativeFault.Justified (r.drop taken) ⟨fault, ahead⟩) :
    RelativeFault.Justified (c :: r) ⟨fault, taken + 1 + ahead⟩ := by
  refine ⟨justified.literal, ?_⟩
  have behind := justified.behind
  dsimp only at behind ⊢
  rw [List.drop_drop] at behind
  rwa [Nat.add_right_comm, List.drop_succ_cons]

theorem simpleLength_eq_self {answer : Option Nat} :
    simpleLength answer = .error .self ↔ answer = none := by
  cases answer <;> simp [simpleLength]

theorem simpleLength_ne_inner {answer : Option Nat} :
    simpleLength answer ≠ .error (.inner fault ahead) := by
  cases answer <;> simp [simpleLength]

theorem endless_interpolated (failed : interpolatedLength verbatim 0 cs = .error e) :
    (StringStyle.interpolated verbatim).Endless cs := by
  rintro body rest rfl edge content
  rw [(content.closes edge).read] at failed
  contradiction

mutual

/-- The fault of a string is its own or that of a literal in it, and justified either way. -/
theorem Opening.justified {c : Char} {r : List Char} {opening : Opening} {e : RelativeFault}
    (found : Opening.of? (c :: r) = some opening) (failed : opening.length r = .error e) :
    e.Justified (c :: r) := by
  unfold Opening.length Opening.total at failed
  split at failed
  · contradiction
  · next endless =>
    cases failed
    refine ⟨rfl, opening, found, ?_⟩
    obtain ⟨style, ahead⟩ := opening
    cases style with
    | plain => exact undelimited_of_none (simpleLength_eq_self.mp endless)
    | verbatim => exact evenRuns_of_none (simpleLength_eq_self.mp endless)
    | raw quotes => exact not_run_of_none (simpleLength_eq_self.mp endless)
    | interpolated verbatim => exact endless_interpolated endless
  · next fault ahead inner =>
    cases failed
    obtain ⟨style, skipped⟩ := opening
    cases style with
    | plain | verbatim | raw => exact absurd inner simpleLength_ne_inner
    | interpolated verbatim =>
      exact (justified_of_inner inner).shift
termination_by 2 * r.length + 1
decreasing_by simp only [List.length_drop]; omega

theorem justified_of_inner {cs : List Char} {verbatim : Bool} {holes ahead : Nat}
    {fault : LexFault}
    (failed : interpolatedLength verbatim holes cs = .error (.inner fault ahead)) :
    RelativeFault.Justified cs ⟨fault, ahead⟩ := by
  match cs, failed with
  | [], failed =>
    rw [interpolatedLength] at failed
    cases failed
  | c :: r, failed =>
    rcases interpolatedLength_eq_inner failed with
      ⟨rfl, endless, rfl, rfl⟩ | ⟨opening, found, endless⟩ | ⟨taken, holes', m, behind, rfl⟩
    · exact ⟨rfl, r, rfl, undelimited_of_none endless⟩
    · exact Opening.justified found endless
    · exact (justified_of_inner behind).shift
termination_by 2 * cs.length
decreasing_by all_goals simp only [List.length_drop, List.length_cons]; omega

end

namespace Form

/-- Where no form starts, the character is none that a lexeme may start with. -/
theorem justified_of_of? (none : of? lineStart c r = none) :
    (LexFault.unexpectedCharacter c).Justified (c :: r) := by
  have no {form} : ¬Starts lineStart c r form := by
    intro starts
    rw [of?_of_starts starts] at none
    contradiction
  have noWord : isWordStart c = false := Bool.eq_false_iff.mpr fun found => no (.word found)
  have noString : Opening.of? (c :: r) = .none := by
    cases found : Opening.of? (c :: r) with
    | none => rfl
    | some opening => exact absurd (.string found) no
  refine ⟨rfl, Bool.eq_false_iff.mpr fun found => no (.lineBreak found),
    Bool.eq_false_iff.mpr fun found => no (.blanks found), Bool.eq_false_iff.mpr fun found => ?_,
    Bool.eq_false_iff.mpr fun found => no (.number found), noWord⟩
  refine no (.mark found ?_ ?_ noString ?_ noWord ?_)
  · exact fun start hash => no (.directive start hash)
  · exact fun slash => ⟨fun next => no (.lineComment slash next),
      fun next => no (.blockComment slash next)⟩
  · exact fun apostrophe => no (.character apostrophe)
  · exact fun sigil => Bool.eq_false_iff.mpr fun next => no (.verbatimWord sigil next)

/-- A fault is justified where it is, and that is the start of the lexeme unless a literal has no
end. -/
theorem justified_of_length {form : Form} {e : RelativeFault} (starts : Starts lineStart c r form)
    (failed : form.length c r = .error e) :
    e.fault.Justified ((c :: r).drop e.ahead) ∧ (e.fault.inLiteral = false → e.ahead = 0) := by
  cases starts with
  | lineBreak | directive | lineComment | blanks | number | word | verbatimWord | mark =>
    contradiction
  | blockComment slash next =>
    obtain ⟨r, rfl⟩ := List.head?_eq_some_iff.mp next
    simp only [length, List.drop_one, List.tail_cons] at failed
    split at failed
    · contradiction
    · next endless =>
      cases failed
      exact ⟨⟨r, by rw [slash]; rfl, not_end_of_none endless⟩, fun _ => rfl⟩
  | string found =>
    have justified := Opening.justified found failed
    refine ⟨justified.behind, fun other => ?_⟩
    rw [justified.literal] at other
    contradiction
  | character found =>
    simp only [length] at failed
    split at failed
    · contradiction
    · next endless =>
      cases failed
      exact ⟨⟨r, by rw [found]; rfl, undelimited_of_none endless⟩, fun _ => rfl⟩

end Form

/-- The fault of an obstacle is justified behind the characters that are skipped. -/
theorem Segmentation.exists_justified {obstacle : Obstacle}
    (stopped : (of lineStart cs).obstacle? = some obstacle) :
    ∃ rest, cs = (of lineStart cs).pieces.flatMap Piece.text ++ (obstacle.skipped ++ rest) ∧
      obstacle.fault.Justified rest ∧
        (obstacle.fault.inLiteral = false → obstacle.skipped = []) := by
  fun_induction of lineStart cs with
  | case1 => contradiction
  | case2 lineStart c r none =>
    cases stopped
    exact ⟨c :: r, rfl, Form.justified_of_of? none, fun _ => rfl⟩
  | case3 lineStart c r form found e failed =>
    cases stopped
    obtain ⟨justified, here⟩ := Form.justified_of_length (Form.of?_eq_some.mp found) failed
    refine ⟨_, (List.take_append_drop _ (c :: r)).symm, justified, fun other => ?_⟩
    rw [here other, List.take_zero]
  | case4 lineStart c r form _ length _ behind ih =>
    obtain ⟨rest, split, justified⟩ := ih stopped
    refine ⟨rest, ?_, justified⟩
    rw [List.flatMap_cons, List.append_assoc, Piece.text, List.cons_append, ← split,
      List.take_append_drop]

/-- An error names a place where its fault is justified. In front of a character that is not
expected and of a comment without an end the text is cut into lexemes. -/
theorem justified_of_lex {e : LexError} (failed : lex text = .error e) :
    ∃ front behind, text = front ++ behind ∧ front.utf8ByteSize = e.position.offset ∧
      e.fault.Justified behind.toList ∧
        (e.fault.inLiteral = false → lex front = .ok (Lexing.of text).lexemes) := by
  have stopped := lex_eq_error.mp failed
  rw [Lexing.error?_of, Option.map_eq_some_iff] at stopped
  obtain ⟨obstacle, stopped, rfl⟩ := stopped
  obtain ⟨rest, split, justified, outermost⟩ := Segmentation.exists_justified stopped
  obtain ⟨_, _, chain, _⟩ := Segmentation.exists_chain true (Lexing.content text.toList).2
  rw [Lexing.lexemes_of]
  dsimp only
  generalize (Segmentation.of true (Lexing.content text.toList).2).pieces = ps at split chain ⊢
  refine ⟨leadingMark text ++ String.ofList (ps.flatMap Piece.text ++ obstacle.skipped),
    String.ofList rest, ?_, ?_, ?_, fun other => ?_⟩
  · rw [String.append_assoc, ← String.ofList_append, List.append_assoc, ← split,
      Lexing.leadingMark_append]
  · rw [String.utf8ByteSize_append, utf8ByteSize_ofList, byteLength_append,
      ← Lexing.offset_content, Position.offset_after, Piece.offset_foldl, Nat.add_assoc]
  · rwa [String.toList_ofList]
  · rw [← List.append_nil ps] at chain
    rw [outermost other, List.append_nil]
    exact lex_of_chain chain.truncate text

/-- An apostrophe in the second hole of a string, and a character that starts nothing. -/
theorem justified_of_lex_nested :
    lex "x $\"\x7b1\x7d\x7bf('a\n" = .error ⟨.unterminatedCharacter, ⟨1, 11, 10⟩⟩ ∧
      (∃ front behind, "x $\"\x7b1\x7d\x7bf('a\n" = front ++ behind ∧ front.utf8ByteSize = 10 ∧
        LexFault.unterminatedCharacter.Justified behind.toList) ∧
      lex "a \x00" = .error ⟨.unexpectedCharacter '\x00', ⟨1, 3, 2⟩⟩ ∧
      ∃ front behind, "a \x00" = front ++ behind ∧ front.utf8ByteSize = 2 ∧
        behind.toList.head? = some '\x00' ∧
        lex front = .ok [⟨.word, "a", ⟨1, 1, 0⟩⟩, ⟨.whitespace, " ", ⟨1, 2, 1⟩⟩] := by
  have nested : lex "x $\"\x7b1\x7d\x7bf('a\n" =
      .error ⟨.unterminatedCharacter, ⟨1, 11, 10⟩⟩ := by decide +kernel
  have outermost : lex "a \x00" = .error ⟨.unexpectedCharacter '\x00', ⟨1, 3, 2⟩⟩ := by
    decide +kernel
  obtain ⟨front, behind, split, size, justified, _⟩ := justified_of_lex nested
  obtain ⟨word, rest, cut, width, unexpected, lexed⟩ := justified_of_lex outermost
  have lexemes : (Lexing.of "a \x00").lexemes =
      [⟨.word, "a", ⟨1, 1, 0⟩⟩, ⟨.whitespace, " ", ⟨1, 2, 1⟩⟩] := by decide +kernel
  exact ⟨nested, ⟨front, behind, split, size, justified⟩, outermost, word, rest, cut, width,
    unexpected.1, lexemes ▸ lexed rfl⟩

end Highlight
