import Mathlib.Data.List.DropRight
import Mathlib.Data.List.Induction
import Highlight.Proofs.Lexeme.Composition

/-! What lexemes look like, and where they end. A lexeme has the shape of its kind and does not stop
before it must. -/
namespace Highlight

inductive Shape (rest : List Char) : LexemeKind → List Char → Prop
  | word (start : isWordStart c = true) (inside : ∀ d ∈ tail, isWordContinue d = true)
      (stop : ∀ d ∈ rest.head?, isWordContinue d = false) : Shape rest .word (c :: tail)
  | verbatimWord (start : isWordStart c = true) (inside : ∀ d ∈ tail, isWordContinue d = true)
      (stop : ∀ d ∈ rest.head?, isWordContinue d = false) : Shape rest .word ('@' :: c :: tail)
  | whitespace (nonempty : text ≠ []) (inside : ∀ d ∈ text, isBlank d = true)
      (stop : ∀ d ∈ rest.head?, isBlank d = false) : Shape rest .whitespace text
  | lineFeed : Shape rest .newline ['\n']
  | returnAndFeed : Shape rest .newline ['\r', '\n']
  | carriageReturn (alone : rest.head? ≠ some '\n') : Shape rest .newline ['\r']
  | directive (inside : ∀ d ∈ tail, isLineBreak d = false)
      (stop : ∀ d ∈ rest.head?, isLineBreak d = true) : Shape rest .directive ('#' :: tail)
  | lineComment (inside : ∀ d ∈ tail, isLineBreak d = false)
      (stop : ∀ d ∈ rest.head?, isLineBreak d = true) : Shape rest .comment ('/' :: '/' :: tail)
  | blockComment (closes : ['*', '/'] <:+ body)
      (only : ∀ front back, body = front ++ '*' :: '/' :: back → back = []) :
      Shape rest .comment ('/' :: '*' :: body)
  | punctuation (mark : isPunctuation c = true) : Shape rest .punctuation [c]
  | number (digit : c.isDigit = true)
      (inside : ∀ front d back, c :: tail = front ++ d :: back →
        d.isAlphanum = true ∨ d = '_' ∨ d = '.' ∧ back.head?.any Char.isDigit = true)
      (stop : ∀ d r, rest = d :: r →
        d.isAlphanum = false ∧ d ≠ '_' ∧ (d = '.' → r.head?.any Char.isDigit = false)) :
      Shape rest .literal (c :: tail)
  | literal (noDigit : c.isDigit = false) : Shape rest .literal (c :: tail)

variable {rest body : List Char} {c d : Char} {lineStart : Bool}

theorem CommentTail.closes (tail : CommentTail body) : ['*', '/'] <:+ body := by
  induction tail with
  | close => exact List.suffix_refl _
  | pass _ _ ih => exact ih.trans (List.suffix_cons ..)

theorem CommentTail.only (tail : CommentTail body) (front back : List Char)
    (split : body = front ++ '*' :: '/' :: back) : back = [] := by
  induction tail generalizing front with
  | close =>
    have size := congrArg List.length split
    simp only [List.length_append, List.length_cons, List.length_nil] at size
    exact List.length_eq_zero_iff.mp (by omega)
  | @pass c body other _ ih =>
    cases front with
    | nil =>
      obtain ⟨rfl, rfl⟩ := List.cons_eq_cons.mp split
      exact absurd ⟨rfl, rfl⟩ other
    | cons d front => exact ih front (List.cons_eq_cons.mp split).2

/-- A point in a number has a digit behind it. -/
theorem numberLength_inside {front back : List Char}
    (read : numberLength (front ++ d :: back ++ rest) = (front ++ d :: back).length) :
    d.isAlphanum = true ∨ d = '_' ∨ d = '.' ∧ back.head?.any Char.isDigit = true := by
  induction front with
  | nil =>
    simp only [List.nil_append, List.cons_append, numberLength] at read
    split at read
    · next inside =>
      have behind : numberLength (back ++ rest) = back.length := Nat.succ.inj read
      have look : (back ++ rest).head?.any Char.isDigit = back.head?.any Char.isDigit := by
        cases back with
        | nil => exact noDigit_of_numberLength behind
        | cons => rfl
      rw [look] at inside
      simpa only [Bool.or_eq_true, Bool.and_eq_true, decide_eq_true_eq, or_assoc] using inside
    · contradiction
  | cons c front ih =>
    simp only [List.cons_append, numberLength] at read
    split at read
    · exact ih (Nat.succ.inj read)
    · contradiction

theorem stop_of_numberLength {r : List Char} (stop : numberLength (d :: r) = 0) :
    d.isAlphanum = false ∧ d ≠ '_' ∧ (d = '.' → r.head?.any Char.isDigit = false) := by
  rw [numberLength] at stop
  split at stop
  · contradiction
  · next outside =>
    simpa only [Bool.or_eq_true, Bool.and_eq_true, decide_eq_true_eq, not_or, not_and,
      Bool.not_eq_true, and_assoc] using outside

theorem head?_of_any {p : Char → Bool} (stop : rest.head?.any p = false) :
    ∀ d ∈ rest.head?, p d = false := by
  intro d head
  rwa [head, Option.any_some] at stop

theorem head?_of_any_not {p : Char → Bool} (stop : rest.head?.any (!p ·) = false) :
    ∀ d ∈ rest.head?, p d = true := by
  intro d head
  simpa using head?_of_any stop d head

namespace Piece

variable {piece : Piece} {ps : List Piece}

/-- Each piece has the shape of its kind, and could not be longer. -/
theorem Cuts.shape (cuts : piece.Cuts lineStart rest) :
    Shape rest piece.form.kind piece.text := by
  have starts := cuts.starts
  have reaches := cuts.reaches
  have comment := cuts.comment_tail
  obtain ⟨form, c, tail⟩ := piece
  dsimp only at *
  cases starts with
  | lineBreak found =>
    simp only [isLineBreak, Bool.or_eq_true, decide_eq_true_eq] at found
    cases reaches with
    | lineBreak single =>
      rcases found with rfl | rfl
      · exact .lineFeed
      · exact .carriageReturn fun feed => single ⟨rfl, feed⟩
    | lineBreakPair first =>
      subst first
      exact .returnAndFeed
    | run run => contradiction
  | directive _ found =>
    subst found
    cases reaches with
    | run run inside stop =>
      cases run
      exact .directive (by simpa using inside) (head?_of_any_not stop)
  | blanks found =>
    cases reaches with
    | run run inside stop =>
      cases run
      exact .whitespace (List.cons_ne_nil _ _) (List.forall_mem_cons.mpr ⟨found, inside⟩)
        (head?_of_any stop)
  | lineComment slash next =>
    obtain ⟨d, tail, rfl⟩ := List.exists_cons_of_ne_nil (comment (.inl rfl))
    obtain rfl : d = '/' := Option.some.inj next
    subst slash
    cases reaches with
    | run run inside stop =>
      cases run
      exact .lineComment (fun d member => by simpa using inside d (List.mem_cons_of_mem _ member))
        (head?_of_any_not stop)
  | blockComment slash next =>
    subst slash
    cases reaches with
    | run run => contradiction
    | blockComment closes =>
      obtain rfl := Option.some.inj next
      exact .blockComment closes.closes closes.only
  | string found =>
    refine .literal ?_
    rcases Opening.head_of_of? found with rfl | rfl | rfl <;> rfl
  | character found =>
    subst found
    exact .literal rfl
  | number digit =>
    cases reaches with
    | run run => contradiction
    | number read =>
      have whole : numberLength (c :: tail ++ rest) = (c :: tail).length := by
        simp [numberLength, Char.isAlphanum, digit, read]
      refine .number digit (fun front d back split => ?_) (fun d r split => ?_)
      · rw [split] at whole
        exact numberLength_inside whole
      · have stop := numberLength_stop read
        rw [split] at stop
        exact stop_of_numberLength stop
  | word start =>
    cases reaches with
    | run run inside stop =>
      cases run
      exact .word start inside (head?_of_any stop)
  | verbatimWord sigil next =>
    subst sigil
    cases reaches with
    | run run inside stop =>
      cases run
      obtain ⟨d, head, start⟩ := (Option.any_eq_true ..).mp next
      cases tail with
      | nil =>
        have inWord := isWordContinue_of_isWordStart start
        exact absurd inWord (Bool.eq_false_iff.mp (head?_of_any stop d head))
      | cons e tail =>
        obtain rfl := Option.some.inj head
        exact .verbatimWord start (fun d member => inside d (List.mem_cons_of_mem _ member))
          (head?_of_any stop)
  | mark found =>
    obtain rfl : tail = [] := cuts.tail_of_mark rfl
    exact .punctuation found

/-- Only the start of a line makes a hash more than a mark. -/
theorem Cuts.kind_hash (cuts : piece.Cuts lineStart rest) (hash : piece.head = '#') :
    piece.form.kind = .directive ↔ lineStart = true := by
  have starts := cuts.starts
  rw [hash] at starts
  generalize piece.form = form at starts
  cases starts with
  | directive start => exact ⟨fun _ => start, fun _ => rfl⟩
  | mark _ noDirective => exact ⟨nofun, fun start => absurd rfl (noDirective start)⟩
  | string found =>
    rcases Opening.head_of_of? found with same | same | same <;> exact absurd same (by decide)
  | lineBreak found | blanks found | lineComment found | blockComment found | character found
  | number found | word found | verbatimWord found => exact absurd found (by decide)

theorem Chain.cuts {front back : List Piece}
    (chain : Chain lineStart (front ++ piece :: back) rest) :
    piece.Cuts (lineStartAfter lineStart front) (back.flatMap text ++ rest) := by
  induction front generalizing lineStart with
  | nil => exact chain.1
  | cons first front ih => exact ih chain.2

end Piece

/-- What stands behind the last line break. -/
def lastLine (xs : List Lexeme) : List Lexeme :=
  xs.rtakeWhile (·.kind ≠ .newline)

theorem lastLine_concat (xs : List Lexeme) (x : Lexeme) :
    lastLine (xs ++ [x]) = if x.kind = .newline then [] else lastLine xs ++ [x] := by
  simp [lastLine, List.rtakeWhile_concat]

/-- The line holds blanks only if all its lexemes are white space. -/
theorem Piece.lineStartAfter_iff (p : Position) (ps : List Piece) :
    lineStartAfter true ps = true ↔ ∀ x ∈ lastLine (locate p ps), x.kind = .whitespace := by
  induction ps using List.reverseRecOn with
  | nil => simp [lineStartAfter, locate, lastLine]
  | append_singleton ps piece ih =>
    obtain ⟨form, c, tail⟩ := piece
    have step : lineStartAfter true (ps ++ [⟨form, c, tail⟩]) =
        form.keepsLineStart (lineStartAfter true ps) := by
      simp [lineStartAfter]
    rw [step, locate_append, locate, locate, lastLine_concat]
    cases form <;> simp [Form.keepsLineStart, Form.kind, ih, or_imp, forall_and]

/-- The lexemes of a text are its characters, each lexeme has the shape of its kind in front of
those behind it, and a hash starts a directive when nothing but white space stands before it on
its line. -/
theorem shapes_of_lex (lexed : lex text = .ok xs) :
    text = leadingMark text ++ String.join (xs.map Lexeme.text) ∧
      ∀ before x after, xs = before ++ x :: after →
        Shape (String.join (after.map Lexeme.text)).toList x.kind x.text.toList ∧
          (x.text.toList.head? = some '#' →
            (x.kind = .directive ↔ ∀ y ∈ lastLine before, y.kind = .whitespace)) := by
  refine ⟨(tiles_of_lex lexed).text_eq, ?_⟩
  rintro before x after rfl
  obtain ⟨ps, chain, _, located⟩ := lex_eq_ok.mp lexed
  obtain ⟨front, back, rfl, rfl, behind⟩ := Piece.exists_split_locate located.symm
  cases back with
  | nil => contradiction
  | cons piece back =>
    obtain ⟨rfl, rfl⟩ := List.cons_eq_cons.mp behind
    have cuts := chain.cuts
    rw [List.append_nil] at cuts
    rw [Piece.join_locate, String.toList_ofList, String.toList_ofList]
    refine ⟨cuts.shape, fun hash => ?_⟩
    rw [← Piece.lineStartAfter_iff]
    exact cuts.kind_hash (Option.some.inj hash)

/-- A directive behind a space, a number in front of a point without a digit, and a hash as a
mark. -/
theorem shapes_of_lex_hash :
    ∃ before after,
      lex " #x\n1.5.#" = .ok (before ++ ⟨.literal, "1.5", ⟨2, 1, 4⟩⟩ :: after) ∧
        Shape ['.', '#'] .literal ['1', '.', '5'] ∧
      ∃ front, lex " #x\n1.5.#" = .ok (front ++ [⟨.punctuation, "#", ⟨2, 5, 8⟩⟩]) ∧
        ¬∀ y ∈ lastLine front, y.kind = .whitespace := by
  have lexed : lex " #x\n1.5.#" = .ok ([⟨.whitespace, " ", ⟨1, 1, 0⟩⟩,
    ⟨.directive, "#x", ⟨1, 2, 1⟩⟩, ⟨.newline, "\n", ⟨1, 4, 3⟩⟩] ++
      ⟨.literal, "1.5", ⟨2, 1, 4⟩⟩ :: [⟨.punctuation, ".", ⟨2, 4, 7⟩⟩,
        ⟨.punctuation, "#", ⟨2, 5, 8⟩⟩]) := by decide +kernel
  obtain ⟨_, shapes⟩ := shapes_of_lex lexed
  obtain ⟨number, _⟩ := shapes _ _ _ rfl
  obtain ⟨_, hash⟩ := shapes _ _ [] (List.append_assoc _ [_, _] [_]).symm
  exact ⟨_, _, lexed, number, _, lexed, mt (hash rfl).mpr (by decide)⟩

end Highlight
