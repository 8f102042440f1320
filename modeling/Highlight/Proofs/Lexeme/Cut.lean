import Highlight.Proofs.Lexeme.Layout
import Highlight.Proofs.Lexeme.Lookahead

/-! How a text is cut, one piece at a time. -/
namespace Highlight

variable {c : Char} {r body rest other : List Char} {lineStart lineStart' : Bool}

/-- What makes a lexeme that starts with `c`, followed by `r`, one of its form. -/
inductive Form.Starts (lineStart : Bool) (c : Char) (r : List Char) : Form → Prop
  | lineBreak (found : isLineBreak c = true) : Starts lineStart c r .lineBreak
  | directive (start : lineStart = true) (found : c = '#') : Starts lineStart c r .directive
  | blanks (found : isBlank c = true) : Starts lineStart c r .blanks
  | lineComment (slash : c = '/') (next : r.head? = some '/') : Starts lineStart c r .lineComment
  | blockComment (slash : c = '/') (next : r.head? = some '*') : Starts lineStart c r .blockComment
  | string (found : Opening.of? (c :: r) = some opening) : Starts lineStart c r (.string opening)
  | character (found : c = '\'') : Starts lineStart c r .character
  | number (found : c.isDigit = true) : Starts lineStart c r .number
  | word (found : isWordStart c = true) : Starts lineStart c r .word
  | verbatimWord (found : c = '@') (next : r.head?.any isWordStart = true) :
      Starts lineStart c r .word
  | mark (found : isPunctuation c = true) (noDirective : lineStart = true → c ≠ '#')
      (noComment : c = '/' → r.head? ≠ some '/' ∧ r.head? ≠ some '*')
      (noString : Opening.of? (c :: r) = none) (noCharacter : c ≠ '\'')
      (noWord : isWordStart c = false) (noVerbatim : c = '@' → r.head?.any isWordStart = false) :
      Starts lineStart c r .mark

theorem Opening.head_of_of? {opening : Opening} (found : of? (c :: r) = some opening) :
    c = '@' ∨ c = '$' ∨ c = '"' := by
  by_contra other
  simp only [not_or] at other
  rw [of?_eq_none (by simp [isStringSigil, other]) other.2.2] at found
  contradiction

namespace Form

/-- A form that is found starts there. -/
theorem starts_of_of? {form : Form} (found : of? lineStart c r = some form) :
    Starts lineStart c r form := by
  unfold of? at found
  split at found
  · next lineBreak => cases found; exact .lineBreak lineBreak
  split at found
  · next directive =>
    cases found
    simp only [Bool.and_eq_true, decide_eq_true_eq] at directive
    exact .directive directive.1 directive.2
  split at found
  · next blanks => cases found; exact .blanks blanks
  split at found
  · next comment =>
    cases found
    simp only [Bool.and_eq_true, decide_eq_true_eq] at comment
    exact .lineComment comment.1 comment.2
  split at found
  · next comment =>
    cases found
    simp only [Bool.and_eq_true, decide_eq_true_eq] at comment
    exact .blockComment comment.1 comment.2
  split at found
  · next opening => cases found; exact .string opening
  split at found
  · next character => cases found; exact .character character
  split at found
  · next digit => cases found; exact .number digit
  split at found
  · next word =>
    cases found
    simp only [Bool.or_eq_true, Bool.and_eq_true, decide_eq_true_eq] at word
    exact word.elim .word fun sigil => .verbatimWord sigil.1 sigil.2
  split at found
  · next _ noDirective _ noLine noBlock _ noString noCharacter _ noWord mark =>
    cases found
    simp only [Bool.and_eq_true, Bool.or_eq_true, decide_eq_true_eq, not_and, not_or] at *
    refine .mark mark noDirective (fun slash => ⟨noLine slash, noBlock slash⟩) ?_ noCharacter
      (Bool.eq_false_iff.mpr noWord.1) (fun sigil => Bool.eq_false_iff.mpr (noWord.2 sigil))
    cases opening : Opening.of? (c :: r) with
    | none => rfl
    | some opened => exact absurd opening (noString opened)
  · contradiction

/-- What makes a lexeme one of a form leaves it no other. -/
theorem of?_of_starts {form : Form} (starts : Starts lineStart c r form) :
    of? lineStart c r = some form := by
  cases starts with
  | lineBreak found => simp [of?, found]
  | directive start found => subst found; simp [of?, start, isLineBreak]
  | blanks found =>
    simp only [isBlank, Bool.or_eq_true, decide_eq_true_eq] at found
    rcases found with ((rfl | rfl) | rfl) | rfl <;> simp [of?, isLineBreak, isBlank]
  | lineComment slash next => subst slash; simp [of?, isLineBreak, isBlank, next]
  | blockComment slash next => subst slash; simp [of?, isLineBreak, isBlank, next]
  | string found =>
    rcases Opening.head_of_of? found with rfl | rfl | rfl <;>
      simp [of?, isLineBreak, isBlank, found]
  | character found =>
    subst found
    have noString := Opening.of?_eq_none (c := '\'') (by decide) (by decide) r
    simp [of?, isLineBreak, isBlank, noString]
  | number found =>
    have no : ∀ {d : Char}, d.isDigit = false → c ≠ d := by
      rintro d other rfl
      rw [found] at other
      contradiction
    have noString : Opening.of? (c :: r) = none :=
      Opening.of?_eq_none
        (by simp [isStringSigil, no (d := '@') (by decide), no (d := '$') (by decide)])
        (no (by decide)) r
    simp [of?, isLineBreak, isBlank, found, noString, no (d := '\n') (by decide),
      no (d := '\r') (by decide), no (d := '#') (by decide), no (d := ' ') (by decide),
      no (d := '\t') (by decide), no (d := '\x0b') (by decide), no (d := '\x0c') (by decide),
      no (d := '/') (by decide), no (d := '\'') (by decide)]
  | word found => exact of?_word found lineStart r
  | verbatimWord found next =>
    subst found
    obtain ⟨d, head, start⟩ := (Option.any_eq_true ..).mp next
    obtain ⟨r, rfl⟩ := List.head?_eq_some_iff.mp head
    have noString : Opening.of? ('@' :: d :: r) = none := by
      have sigil : isStringSigil d = false := by
        simp [isStringSigil, ne_of_isWordStart start (d := '@') (by decide),
          ne_of_isWordStart start (d := '$') (by decide)]
      have quote := ne_of_isWordStart start (d := '"') (by decide)
      have prefixed : isStringSigil '@' = true := rfl
      simp [Opening.of?, runLength, prefixed, sigil, quote]
    simp [of?, isLineBreak, isBlank, noString, start]
  | mark found noDirective noComment noString noCharacter noWord noVerbatim =>
    have no : ∀ {d}, isPunctuation d = false → c ≠ d := by
      rintro d other rfl
      rw [found] at other
      contradiction
    have noDigit := (of_isPunctuation found).2.2
    have line : ¬(c = '/' ∧ r.head? = some '/') := fun both => (noComment both.1).1 both.2
    have block : ¬(c = '/' ∧ r.head? = some '*') := fun both => (noComment both.1).2 both.2
    have directive : ¬(lineStart = true ∧ c = '#') := fun both => noDirective both.1 both.2
    have verbatim : ¬(c = '@' ∧ r.head?.any isWordStart = true) := fun both => by
      simp [noVerbatim both.1] at both
    simp [of?, isLineBreak, isBlank, noString, noCharacter, noWord, noDigit, found, line, block,
      directive, verbatim, no (d := '\n') (by decide), no (d := '\r') (by decide),
      no (d := ' ') (by decide), no (d := '\t') (by decide), no (d := '\x0b') (by decide),
      no (d := '\x0c') (by decide)]

theorem of?_eq_some {form : Form} :
    of? lineStart c r = some form ↔ Starts lineStart c r form :=
  ⟨starts_of_of?, of?_of_starts⟩

end Form

theorem runLength_eq_length {p : Char → Bool} :
    runLength p (body ++ rest) = body.length ↔
      (∀ c ∈ body, p c = true) ∧ rest.head?.any p = false := by
  induction body with
  | nil => simpa using runLength_eq_zero
  | cons c body ih =>
    rw [List.cons_append, runLength_cons]
    cases inside : p c <;> simp [inside, ih]

theorem noDigit_of_numberLength (stop : numberLength r = 0) : r.head?.any Char.isDigit = false := by
  cases r with
  | nil => rfl
  | cons c r =>
    refine Bool.eq_false_iff.mpr fun digit => ?_
    have digit : c.isDigit = true := digit
    simp [numberLength, Char.isAlphanum, digit] at stop

theorem numberLength_le (cs : List Char) : numberLength cs ≤ cs.length := by
  induction cs with
  | nil => exact Nat.le_refl 0
  | cons c cs ih =>
    rw [numberLength, List.length_cons]
    split <;> omega

/-- A number ends where it does in front of anything that does not continue it. -/
theorem numberLength_exchange (read : numberLength (body ++ rest) = body.length)
    (stop : numberLength other = 0) : numberLength (body ++ other) = body.length := by
  induction body with
  | nil => exact stop
  | cons c body ih =>
    simp only [List.cons_append, numberLength] at read ⊢
    split at read
    · next inside =>
      have behind : numberLength (body ++ rest) = body.length := Nat.succ.inj read
      have look : (body ++ other).head?.any Char.isDigit =
          (body ++ rest).head?.any Char.isDigit := by
        cases body with
        | nil => exact (noDigit_of_numberLength stop).trans (noDigit_of_numberLength behind).symm
        | cons => rfl
      rw [look, if_pos inside, ih behind, List.length_cons]
    · contradiction

theorem numberLength_stop (read : numberLength (body ++ rest) = body.length) :
    numberLength rest = 0 := by
  induction body with
  | nil => exact read
  | cons c body ih =>
    rw [List.cons_append, numberLength] at read
    split at read
    · exact ih (Nat.succ.inj read)
    · contradiction

namespace Form

/-- The characters that a lexeme goes on with, if it has no closing of its own. -/
def run? : Form → Option (Char → Bool)
  | .directive | .lineComment => some (!isLineBreak ·)
  | .blanks => some isBlank
  | .word => some isWordContinue
  | _ => none

/-- A lexeme of the form that starts with `c` goes on with the characters and ends in front of
`rest`. -/
inductive Reaches (c : Char) (rest : List Char) : Form → List Char → Prop
  | lineBreak (single : ¬(c = '\r' ∧ rest.head? = some '\n')) : Reaches c rest .lineBreak []
  | lineBreakPair (first : c = '\r') : Reaches c rest .lineBreak ['\n']
  | run (run : form.run? = some p) (inside : ∀ d ∈ tail, p d = true)
      (stop : rest.head?.any p = false) : Reaches c rest form tail
  | blockComment (closes : CommentTail tail) : Reaches c rest .blockComment (d :: tail)
  | string (read : opening.length (tail ++ rest) = .ok tail.length) :
      Reaches c rest (.string opening) tail
  | character (closes : Delimited '\'' tail) : Reaches c rest .character tail
  | number (read : numberLength (tail ++ rest) = tail.length) : Reaches c rest .number tail
  | mark : Reaches c rest .mark []

theorem length_of_run? {form : Form} {p : Char → Bool} (run : form.run? = some p) :
    form.length c r = .ok (runLength p r) := by
  cases form <;> cases run <;> rfl

/-- The characters that a lexeme has are those its form reaches. -/
theorem reaches_of_length {form : Form} {tail : List Char}
    (read : form.length c (tail ++ rest) = .ok tail.length) : Reaches c rest form tail := by
  cases form with
  | lineBreak =>
    have size := Except.ok.inj read
    split at size
    · next pair =>
      simp only [Bool.and_eq_true, decide_eq_true_eq] at pair
      obtain ⟨d, rfl⟩ := List.length_eq_one_iff.mp size.symm
      obtain rfl : d = '\n' := Option.some.inj pair.2
      exact .lineBreakPair pair.1
    · next single =>
      obtain rfl := List.length_eq_zero_iff.mp size.symm
      exact .lineBreak (by simpa using single)
  | directive | lineComment | blanks | word =>
    obtain ⟨inside, stop⟩ := runLength_eq_length.mp (Except.ok.inj read)
    exact .run rfl inside stop
  | blockComment =>
    cases tail with
    | nil => simp only [length] at read; split at read <;> simp at read
    | cons d tail =>
      simp only [length, List.cons_append, List.drop_one, List.tail_cons] at read
      split at read
      · next comment =>
        rw [List.length_cons, Except.ok.injEq, Nat.add_right_cancel_iff] at read
        exact .blockComment (commentLength?_append.mp (read ▸ comment))
      · contradiction
  | string opening => exact .string read
  | character =>
    simp only [length] at read
    split at read
    · next literal =>
      obtain rfl := Except.ok.inj read
      exact .character (delimitedLength?_append.mp literal)
    · contradiction
  | number => exact .number (Except.ok.inj read)
  | mark =>
    obtain rfl := List.length_eq_zero_iff.mp (Except.ok.inj read).symm
    exact .mark

theorem length_of_reaches {form : Form} {tail : List Char} (reaches : Reaches c rest form tail) :
    form.length c (tail ++ rest) = .ok tail.length := by
  cases reaches with
  | lineBreak single => exact congrArg Except.ok (if_neg (by simpa using single))
  | lineBreakPair first => rw [first]; rfl
  | run run inside stop =>
    rw [length_of_run? run, runLength_eq_length.mpr ⟨inside, stop⟩]
  | blockComment closes =>
    simp only [length, List.cons_append, List.drop_one, List.tail_cons, closes.read rest]
    rfl
  | string read => exact read
  | character closes => simp only [length, closes.read rest]
  | number read => exact congrArg Except.ok read
  | mark => rfl

end Form

namespace Piece

/-- In front of `rest`, the piece is cut. -/
structure Cuts (lineStart : Bool) (piece : Piece) (rest : List Char) : Prop where
  form : Form.of? lineStart piece.head (piece.tail ++ rest) = some piece.form
  length : piece.form.length piece.head (piece.tail ++ rest) = .ok piece.tail.length

/-- A piece could reach further if the character stood behind it. Numbers and marks may look at
more than one character. -/
def takes (piece : Piece) (c : Char) : Bool :=
  match piece.form with
  | .lineBreak => piece.text = ['\r'] && c = '\n'
  | .directive | .lineComment => !isLineBreak c
  | .blanks => isBlank c
  | .string _ => c = '"'
  | .word => isWordContinue c
  | .blockComment | .character | .number | .mark => false

section

variable {piece : Piece}

theorem takes_of_run? {p : Char → Bool} (run : piece.form.run? = some p) : piece.takes = p := by
  obtain ⟨form, c, tail⟩ := piece
  cases form <;> cases run <;> rfl

theorem cuts_iff :
    piece.Cuts lineStart rest ↔
      Form.Starts lineStart piece.head (piece.tail ++ rest) piece.form ∧
        Form.Reaches piece.head rest piece.form piece.tail :=
  ⟨fun cuts => ⟨Form.of?_eq_some.mp cuts.form, Form.reaches_of_length cuts.length⟩,
    fun both => ⟨Form.of?_eq_some.mpr both.1, Form.length_of_reaches both.2⟩⟩

theorem Cuts.starts (cuts : piece.Cuts lineStart rest) :
    Form.Starts lineStart piece.head (piece.tail ++ rest) piece.form :=
  (cuts_iff.mp cuts).1

theorem Cuts.form_eq {form : Form} (cuts : piece.Cuts lineStart rest)
    (starts : Form.Starts lineStart piece.head (piece.tail ++ rest) form) : piece.form = form :=
  Option.some.inj (cuts.form.symm.trans (Form.of?_eq_some.mpr starts))

theorem Cuts.reaches (cuts : piece.Cuts lineStart rest) :
    Form.Reaches piece.head rest piece.form piece.tail :=
  (cuts_iff.mp cuts).2

/-- A comment holds the second character of its opening. -/
theorem Cuts.comment_tail (cuts : piece.Cuts lineStart rest)
    (comment : piece.form = .lineComment ∨ piece.form = .blockComment) : piece.tail ≠ [] := by
  have starts := cuts.starts
  have reaches := cuts.reaches
  obtain ⟨form, c, tail⟩ := piece
  rcases comment with rfl | rfl
  · rintro rfl
    cases starts with
    | lineComment slash next =>
      cases reaches with
      | run run inside stop =>
        cases run
        obtain ⟨r, rfl⟩ := List.head?_eq_some_iff.mp next
        contradiction
  · cases reaches with
    | run run => contradiction
    | blockComment => exact List.cons_ne_nil _ _

theorem Cuts.lineStart_of_directive (cuts : piece.Cuts lineStart rest)
    (directive : piece.form = .directive) : lineStart = true := by
  have starts := cuts.starts
  rw [directive] at starts
  cases starts with
  | directive start => exact start

theorem Cuts.numberLength_eq_zero (cuts : piece.Cuts lineStart rest)
    (number : piece.form = .number) : numberLength rest = 0 := by
  have reaches := cuts.reaches
  rw [number] at reaches
  cases reaches with
  | run run => contradiction
  | number read => exact numberLength_stop read

theorem Cuts.tail_of_mark (cuts : piece.Cuts lineStart rest) (mark : piece.form = .mark) :
    piece.tail = [] := by
  have length := cuts.length
  rw [mark] at length
  exact List.length_eq_zero_iff.mp (Except.ok.inj length).symm

theorem Cuts.of?_of_mark (cuts : piece.Cuts lineStart rest) (mark : piece.form = .mark) :
    Form.of? lineStart piece.head rest = some .mark := by
  have form := cuts.form
  rwa [cuts.tail_of_mark mark, mark] at form

/-- A string is the one form that may end where it could reach further. -/
theorem quote_edge
    (edge : other.head?.any piece.takes = true → rest.head?.any piece.takes = true)
    (opening : Opening) (string : piece.form = .string opening) :
    other.head? = some '"' → rest.head? = some '"' := by
  obtain ⟨form, c, tail⟩ := piece
  obtain rfl : form = .string opening := string
  intro head
  obtain ⟨d, head, quote⟩ := (Option.any_eq_true ..).mp (edge (by rw [head]; rfl))
  rw [head, of_decide_eq_true quote]

/-- What follows a piece does not change its form, unless it continues it. -/
theorem Cuts.starts_exchange (cuts : piece.Cuts lineStart rest)
    (edge : other.head?.any piece.takes = true → rest.head?.any piece.takes = true)
    (directive : piece.form = .directive → lineStart' = true)
    (mark : piece.form = .mark → Form.of? lineStart' piece.head other = some .mark) :
    Form.Starts lineStart' piece.head (piece.tail ++ other) piece.form := by
  have starts := cuts.starts
  have reaches := cuts.reaches
  have comment := cuts.comment_tail
  have quote := quote_edge edge
  obtain ⟨form, c, tail⟩ := piece
  dsimp only at *
  cases starts with
  | lineBreak found => exact .lineBreak found
  | directive start found => exact .directive (directive rfl) found
  | blanks found => exact .blanks found
  | lineComment slash next =>
    rw [List.head?_append_of_ne_nil _ (comment (.inl rfl))] at next
    exact .lineComment slash (by rwa [List.head?_append_of_ne_nil _ (comment (.inl rfl))])
  | blockComment slash next =>
    rw [List.head?_append_of_ne_nil _ (comment (.inr rfl))] at next
    exact .blockComment slash (by rwa [List.head?_append_of_ne_nil _ (comment (.inr rfl))])
  | string found => exact .string (Opening.of?_exchange found cuts.length (quote _ rfl))
  | character found => exact .character found
  | number found => exact .number found
  | word found => exact .word found
  | verbatimWord found next =>
    cases tail with
    | nil =>
      obtain ⟨d, head, start⟩ := (Option.any_eq_true ..).mp next
      cases reaches with
      | run run inside stop =>
        cases run
        have inWord := isWordContinue_of_isWordStart start
        rw [List.nil_append] at head
        rw [head, Option.any_some, inWord] at stop
        contradiction
    | cons d tail => exact .verbatimWord found next
  | mark =>
    obtain rfl : tail = [] := cuts.tail_of_mark rfl
    exact Form.of?_eq_some.mp (mark rfl)

/-- Nor does it change where the piece ends. -/
theorem Cuts.reaches_exchange (cuts : piece.Cuts lineStart rest)
    (edge : other.head?.any piece.takes = true → rest.head?.any piece.takes = true)
    (number : piece.form = .number → numberLength other = 0) :
    Form.Reaches piece.head other piece.form piece.tail := by
  have reaches := cuts.reaches
  have quote := quote_edge edge
  obtain ⟨form, c, tail⟩ := piece
  dsimp only at *
  cases reaches with
  | lineBreak single =>
    refine .lineBreak fun ⟨first, feed⟩ => single ⟨first, ?_⟩
    obtain ⟨d, head, feed⟩ := (Option.any_eq_true ..).mp (edge (by rw [feed, first]; rfl))
    simp only [takes, Bool.and_eq_true, decide_eq_true_eq] at feed
    rw [head, feed.2]
  | lineBreakPair first => exact .lineBreakPair first
  | run run inside stop =>
    have same : takes ⟨form, c, tail⟩ = _ := takes_of_run? run
    rw [same] at edge
    exact .run run inside (Bool.eq_false_iff.mpr (mt edge (Bool.eq_false_iff.mp stop)))
  | blockComment closes => exact .blockComment closes
  | string read => exact .string (Opening.length_exchange read (quote _ rfl))
  | character closes => exact .character closes
  | number read => exact .number (numberLength_exchange read (number rfl))
  | mark => exact .mark

/-- What is cut in front of `rest` is cut in front of `other`, if nothing stands there that it could
take. -/
theorem Cuts.exchange (cuts : piece.Cuts lineStart rest)
    (edge : other.head?.any piece.takes = true → rest.head?.any piece.takes = true)
    (directive : piece.form = .directive → lineStart' = true)
    (number : piece.form = .number → numberLength other = 0)
    (mark : piece.form = .mark → Form.of? lineStart' piece.head other = some .mark) :
    piece.Cuts lineStart' other :=
  cuts_iff.mpr ⟨cuts.starts_exchange edge directive mark, cuts.reaches_exchange edge number⟩

end

/-- The pieces are cut one after the other, the last of them in front of `rest`. -/
def Chain (lineStart : Bool) : List Piece → List Char → Prop
  | [], _ => True
  | piece :: pieces, rest =>
    piece.Cuts lineStart (pieces.flatMap text ++ rest) ∧
      Chain (piece.form.keepsLineStart lineStart) pieces rest

def lineStartAfter (lineStart : Bool) (pieces : List Piece) : Bool :=
  pieces.foldl (fun lineStart piece => piece.form.keepsLineStart lineStart) lineStart

theorem Chain.exists_cuts {pieces : List Piece} (chain : Chain lineStart pieces rest)
    (member : piece ∈ pieces) : ∃ lineStart rest, piece.Cuts lineStart rest := by
  induction pieces generalizing lineStart with
  | nil => contradiction
  | cons first pieces ih =>
    rcases List.mem_cons.mp member with rfl | member
    · exact ⟨_, _, chain.1⟩
    · exact ih chain.2 member

end Piece

/-- A lexeme does not reach past the end of the text. -/
theorem Form.length_le {form : Form} (starts : Starts lineStart c r form)
    (read : form.length c r = .ok n) : n ≤ r.length := by
  have run {p : Char → Bool} : runLength p r ≤ r.length := (List.takeWhile_sublist p).length_le
  cases starts with
  | lineBreak found =>
    obtain rfl := Except.ok.inj read
    split
    · next both =>
      simp only [Bool.and_eq_true, decide_eq_true_eq] at both
      obtain ⟨r, rfl⟩ := List.head?_eq_some_iff.mp both.2
      exact Nat.succ_pos _
    · exact Nat.zero_le _
  | directive | lineComment | blanks | word | verbatimWord =>
    obtain rfl := Except.ok.inj read
    exact run
  | blockComment slash next =>
    obtain ⟨r, rfl⟩ := List.head?_eq_some_iff.mp next
    simp only [length, List.drop_one, List.tail_cons] at read
    split at read
    · next comment =>
      obtain rfl := Except.ok.inj read
      obtain ⟨body, rest, rfl, rfl, _⟩ := exists_commentTail comment
      simp
    · contradiction
  | string found => exact Opening.length_le found read
  | character found =>
    simp only [length] at read
    split at read
    · next literal =>
      obtain rfl := Except.ok.inj read
      obtain ⟨body, rest, rfl, rfl, _⟩ := exists_delimited literal
      simp
    · contradiction
  | number found =>
    obtain rfl := Except.ok.inj read
    exact numberLength_le r
  | mark =>
    obtain rfl := Except.ok.inj read
    exact Nat.zero_le _

namespace Segmentation

variable {ps : List Piece}

theorem of_cuts {piece : Piece} (cuts : piece.Cuts lineStart rest) :
    of lineStart (piece.text ++ rest) =
      ⟨piece :: (of (piece.form.keepsLineStart lineStart) rest).pieces,
        (of (piece.form.keepsLineStart lineStart) rest).obstacle?⟩ :=
  of_append cuts.form cuts.length

/-- A chain of pieces is what the cutting begins with. -/
theorem of_chain (chain : Piece.Chain lineStart ps rest) :
    of lineStart (ps.flatMap Piece.text ++ rest) =
      ⟨ps ++ (of (Piece.lineStartAfter lineStart ps) rest).pieces,
        (of (Piece.lineStartAfter lineStart ps) rest).obstacle?⟩ := by
  induction ps generalizing lineStart with
  | nil => rfl
  | cons piece ps ih =>
    rw [List.flatMap_cons, List.append_assoc, of_cuts chain.1, ih chain.2]
    rfl

/-- Only in front of an obstacle does the cutting end early. -/
theorem exists_chain (lineStart : Bool) (cs : List Char) :
    ∃ rest, cs = (of lineStart cs).pieces.flatMap Piece.text ++ rest ∧
      Piece.Chain lineStart (of lineStart cs).pieces rest ∧
        ((of lineStart cs).obstacle? = none → rest = []) := by
  fun_induction of lineStart cs with
  | case1 => exact ⟨[], rfl, trivial, fun _ => rfl⟩
  | case2 _ c r | case3 _ c r =>
    exact ⟨c :: r, rfl, trivial, fun clear => absurd clear (Option.some_ne_none _)⟩
  | case4 lineStart c r form found length read behind ih =>
    obtain ⟨rest, split, chain, whole⟩ := ih
    have inside := Form.length_le (Form.of?_eq_some.mp found) read
    have texts : r.take length ++ (behind.pieces.flatMap Piece.text ++ rest) = r :=
      split ▸ List.take_append_drop length r
    have cuts : Piece.Cuts lineStart ⟨form, c, r.take length⟩
        (behind.pieces.flatMap Piece.text ++ rest) := by
      constructor
      · rw [texts, found]
      · rw [texts, read, List.length_take_of_le inside]
    refine ⟨rest, ?_, ⟨cuts, chain⟩, whole⟩
    rw [List.flatMap_cons, List.append_assoc, Piece.text, List.cons_append, texts]

/-- Behind the last piece stand the characters in front of the obstacle. -/
theorem exists_behind {obstacle : Obstacle}
    (stopped : (of lineStart cs).obstacle? = some obstacle) :
    ∃ rest, cs = (of lineStart cs).pieces.flatMap Piece.text ++ (obstacle.skipped ++ rest) := by
  fun_induction of lineStart cs with
  | case1 => contradiction
  | case2 _ c r =>
    cases stopped
    exact ⟨c :: r, rfl⟩
  | case3 _ c r =>
    cases stopped
    exact ⟨_, (List.take_append_drop _ (c :: r)).symm⟩
  | case4 lineStart c r form _ length _ behind ih =>
    obtain ⟨rest, split⟩ := ih stopped
    refine ⟨rest, ?_⟩
    rw [List.flatMap_cons, List.append_assoc, Piece.text, List.cons_append, ← split,
      List.take_append_drop]

end Segmentation

/-- The lexemes of a text are the pieces that its characters are cut into. -/
theorem lex_eq_ok :
    lex text = .ok xs ↔
      ∃ ps, Piece.Chain true ps [] ∧ (Lexing.content text.toList).2 = ps.flatMap Piece.text ∧
        xs = Piece.locate (Lexing.content text.toList).1 ps := by
  constructor
  · intro lexed
    obtain ⟨rest, split, chain, whole⟩ :=
      Segmentation.exists_chain true (Lexing.content text.toList).2
    unfold lex at lexed
    dsimp only at lexed
    split at lexed
    · contradiction
    · next clear =>
      obtain rfl := whole (Option.map_eq_none_iff.mp clear)
      rw [List.append_nil] at split
      exact ⟨_, chain, split, (Except.ok.inj lexed).symm⟩
  · rintro ⟨ps, chain, texts, rfl⟩
    have cut := Segmentation.of_chain chain
    rw [List.append_nil, Segmentation.of, List.append_nil, ← texts] at cut
    simp [lex, Lexing.of, cut]

theorem lex_eq_error {e : LexError} : lex text = .error e ↔ (Lexing.of text).error? = some e := by
  unfold lex
  dsimp only
  split
  · next failed => simp [failed]
  · next clear => simp [clear]

theorem lexemes_of_lex (lexed : lex text = .ok xs) : (Lexing.of text).lexemes = xs := by
  unfold lex at lexed
  dsimp only at lexed
  split at lexed
  · contradiction
  · exact Except.ok.inj lexed

end Highlight
