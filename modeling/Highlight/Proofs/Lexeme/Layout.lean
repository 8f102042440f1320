import Highlight.Lexeme.Lexing
import Highlight.Vocabulary.Punctuation

/-! Layouts: texts written as words, marks and spaces. A layout in which no two words and no two
spaces meet is cut into its items. -/
namespace Highlight

theorem runLength_append {p : Char → Bool} (inside : ∀ c ∈ body, p c = true)
    (boundary : ∀ c ∈ rest.head?, p c = false) : runLength p (body ++ rest) = body.length := by
  have stop : rest.takeWhile p = [] := by
    cases rest with
    | nil => rfl
    | cons c r => simp [boundary c rfl]
  rw [runLength, List.takeWhile_append_of_pos inside, stop, List.append_nil]

theorem Opening.of?_eq_none (sigil : isStringSigil c = false) (quote : c ≠ '"') (r : List Char) :
    Opening.of? (c :: r) = none := by
  simp [of?, runLength, sigil, quote]

section

variable {c d : Char} {r tail rest : List Char} {lineStart : Bool}

theorem ne_of_isWordStart (start : isWordStart c = true) (other : isWordStart d = false) :
    c ≠ d := by
  rintro rfl
  rw [start] at other
  contradiction

theorem toNat_of_isAlpha (letter : c.isAlpha = true) :
    (65 ≤ c.toNat ∧ c.toNat ≤ 90) ∨ (97 ≤ c.toNat ∧ c.toNat ≤ 122) := by
  rcases Bool.or_eq_true_iff.mp letter with upper | lower
  · have bounds := of_decide_eq_true upper
    exact .inl ⟨UInt32.le_iff_toNat_le.mp bounds.1, UInt32.le_iff_toNat_le.mp bounds.2⟩
  · have bounds := Bool.and_eq_true_iff.mp lower
    exact .inr ⟨UInt32.le_iff_toNat_le.mp (of_decide_eq_true bounds.1),
      UInt32.le_iff_toNat_le.mp (of_decide_eq_true bounds.2)⟩

theorem toNat_of_isDigit (digit : c.isDigit = true) : 48 ≤ c.toNat ∧ c.toNat ≤ 57 :=
  Char.isDigit_iff_toNat.mp digit

theorem isDigit_of_isWordStart (start : isWordStart c = true) : c.isDigit = false := by
  refine Bool.eq_false_iff.mpr fun digit => ?_
  have bounds := toNat_of_isDigit digit
  have ascii : c.toNat < 0x80 := by omega
  rcases Bool.or_eq_true_iff.mp start with letter | underscore
  · rw [Unicode.isAlphabetic, if_pos ascii] at letter
    have := toNat_of_isAlpha letter
    omega
  · rw [decide_eq_true_eq] at underscore
    rw [underscore] at digit
    contradiction

theorem of?_word (start : isWordStart c = true) (lineStart : Bool) (r : List Char) :
    Form.of? lineStart c r = some .word := by
  have no : ∀ {d}, isWordStart d = false → c ≠ d := ne_of_isWordStart start
  have opening : Opening.of? (c :: r) = none :=
    Opening.of?_eq_none
      (by simp [isStringSigil, no (d := '@') (by decide), no (d := '$') (by decide)])
      (no (by decide)) r
  simp [Form.of?, isLineBreak, isBlank, opening, start, isDigit_of_isWordStart start,
    no (d := '\n') (by decide), no (d := '\r') (by decide), no (d := '#') (by decide),
    no (d := ' ') (by decide), no (d := '\t') (by decide), no (d := '\x0b') (by decide),
    no (d := '\x0c') (by decide), no (d := '/') (by decide), no (d := '\'') (by decide)]

theorem of?_byteOrderMark (lineStart : Bool) (r : List Char) :
    Form.of? lineStart Lexing.byteOrderMark r = none := by
  have opening : Opening.of? (Lexing.byteOrderMark :: r) = none :=
    Opening.of?_eq_none (by decide) (by decide) r
  have noStart : isWordStart '\ufeff' = false := by decide +kernel
  have noMark : isPunctuation '\ufeff' = false := by decide
  simp only [Lexing.byteOrderMark] at opening
  simp [Form.of?, Lexing.byteOrderMark, isLineBreak, isBlank, opening, noStart, noMark]

/-- Punctuation that never starts anything longer than itself. -/
def isLoneMark (c : Char) : Bool :=
  isPunctuation c && !isStringSigil c && c ≠ '"' && c ≠ '\'' && c ≠ '/' && c ≠ '#' && c ≠ '_'

theorem isPunctuation_of_isLoneMark (lone : isLoneMark c = true) : isPunctuation c = true := by
  simp only [isLoneMark, Bool.and_eq_true] at lone
  exact lone.1.1.1.1.1.1

theorem of_isPunctuation (mark : isPunctuation c = true) :
    c.toNat < 0x80 ∧ c.isAlpha = false ∧ c.isDigit = false := by
  simp only [isPunctuation, Bool.and_eq_true, decide_eq_true_eq, Bool.not_eq_true',
    Char.isAlphanum, Bool.or_eq_false_iff] at mark
  exact ⟨by omega, mark.2⟩

theorem isWordContinue_of_isLoneMark (lone : isLoneMark c = true) : isWordContinue c = false := by
  obtain ⟨ascii, noLetter, noDigit⟩ := of_isPunctuation (isPunctuation_of_isLoneMark lone)
  simp only [isLoneMark, Bool.and_eq_true, decide_eq_true_eq] at lone
  simp [isWordContinue, Unicode.isAlphanumeric, Unicode.isAlphabetic, Unicode.isNumeric, ascii,
    noLetter, noDigit, lone.2]

theorem of?_mark (lone : isLoneMark c = true) (lineStart : Bool) (r : List Char) :
    Form.of? lineStart c r = some .mark := by
  have no : ∀ {d}, isLoneMark d = false → c ≠ d := by
    rintro d other rfl
    rw [lone] at other
    contradiction
  have opening : Opening.of? (c :: r) = none :=
    Opening.of?_eq_none
      (by simp [isStringSigil, no (d := '@') (by decide), no (d := '$') (by decide)])
      (no (by decide)) r
  have noWord := isWordContinue_of_isLoneMark lone
  have noStart : isWordStart c = false :=
    Bool.eq_false_iff.mpr fun start => by simp [isWordContinue_of_isWordStart start] at noWord
  have mark := isPunctuation_of_isLoneMark lone
  have noDigit := (of_isPunctuation mark).2.2
  simp [Form.of?, isLineBreak, isBlank, opening, noStart, noDigit, mark,
    no (d := '\n') (by decide), no (d := '\r') (by decide), no (d := '#') (by decide),
    no (d := ' ') (by decide), no (d := '\t') (by decide), no (d := '\x0b') (by decide),
    no (d := '\x0c') (by decide), no (d := '/') (by decide), no (d := '\'') (by decide),
    no (d := '@') (by decide)]

/-- A slash may start a comment. -/
theorem isLoneMark_spelling {m : Punctuation} (single : m ≠ .slash) :
    ∃ c, m.spelling.toList = [c] ∧ isLoneMark c = true := by
  cases m
  case slash => contradiction
  all_goals exact ⟨_, rfl, rfl⟩

end

namespace Segmentation

/-- A lexeme with the length of its text is cut off at its end. -/
theorem of_append (form : Form.of? lineStart c (tail ++ rest) = some found)
    (length : found.length c (tail ++ rest) = .ok tail.length) :
    of lineStart (c :: (tail ++ rest)) =
      ⟨⟨found, c, tail⟩ :: (of (found.keepsLineStart lineStart) rest).pieces,
        (of (found.keepsLineStart lineStart) rest).obstacle?⟩ := by
  rw [of]
  simp only [form, length, List.take_left, List.drop_left]

end Segmentation

def IsWord (w : String) : Prop :=
  ∃ c r, w.toList = c :: r ∧ isWordStart c = true ∧ r.all isWordContinue = true

namespace Layout

inductive Item
  | word (w : String)
  | mark (m : Punctuation)
  | blank
  | newline
deriving DecidableEq, Repr

namespace Item

def text : Item → String
  | .word w => w
  | .mark m => m.spelling
  | .blank => " "
  | .newline => "\n"

def kind : Item → LexemeKind
  | .word _ => .word
  | .mark _ => .punctuation
  | .blank => .whitespace
  | .newline => .newline

end Item

def chars (items : List Item) : List Char :=
  items.flatMap fun item => item.text.toList

@[simp] theorem chars_cons (item : Item) (items : List Item) :
    chars (item :: items) = item.text.toList ++ chars items :=
  List.flatMap_cons

/-- The items keep apart when they are written one after the other. -/
def Spaced : List Item → Prop
  | [] => True
  | .word w :: items => IsWord w ∧ (∀ v, items.head? ≠ some (.word v)) ∧ Spaced items
  | .mark m :: items => m ≠ .slash ∧ Spaced items
  | .blank :: items => items.head? ≠ some .blank ∧ Spaced items
  | .newline :: items => Spaced items

def Follows (items : List Item) : Prop :=
  (∀ w, items.head? ≠ some (.word w)) ∧ Spaced items

/-- Items that start with a word and may stand before all that may stand behind one. -/
structure Phrase (items : List Item) : Prop where
  leads : ∃ w rest, items = .word w :: rest
  spaced : Follows rest → Spaced (items ++ rest)

def separated (parts : List (List Item)) : List Item :=
  [Item.mark .comma, .blank].intercalate parts

theorem phrase_word (word : IsWord w) : Phrase [.word w] where
  leads := ⟨w, [], rfl⟩
  spaced follows := ⟨word, follows⟩

theorem separated_cons_cons (part next : List Item) (parts : List (List Item)) :
    separated (part :: next :: parts) =
      part ++ .mark .comma :: .blank :: separated (next :: parts) := by
  simp [separated, List.intercalate_cons_cons]

theorem Phrase.leads_separated (phrase : Phrase part) (parts : List (List Item)) :
    ∃ w rest, separated (part :: parts) = .word w :: rest := by
  obtain ⟨w, rest, rfl⟩ := phrase.leads
  cases parts with
  | nil => exact ⟨w, rest, List.intercalate_singleton⟩
  | cons next parts => exact ⟨w, _, separated_cons_cons ..⟩

theorem spaced_separated (phrases : ∀ part ∈ parts, Phrase part) (follows : Follows rest) :
    Spaced (separated parts ++ rest) := by
  induction parts with
  | nil => exact follows.2
  | cons part parts ih =>
    have others := ih fun part member => phrases part (.tail _ member)
    have phrase := phrases part (.head _)
    cases parts with
    | nil =>
      rw [separated, List.intercalate_singleton]
      exact phrase.spaced follows
    | cons next parts =>
      -- The blank behind the comma meets the word that the next part starts with.
      obtain ⟨w, items, starts⟩ := (phrases next (.tail _ (.head _))).leads_separated parts
      rw [starts] at others
      rw [separated_cons_cons, starts, List.append_assoc]
      exact phrase.spaced ⟨nofun, by decide, nofun, others⟩

/-- The first character of a layout tells what its first item is. -/
theorem head_chars (spaced : Spaced items) (head : c ∈ (chars items).head?) :
    (isWordContinue c = true → ∃ w, items.head? = some (.word w)) ∧
      (isBlank c = true → items.head? = some .blank) := by
  cases items with
  | nil => contradiction
  | cons item items =>
    cases item with
    | word w =>
      obtain ⟨d, r, parts, start, _⟩ := spaced.1
      rw [chars_cons, Item.text, parts] at head
      obtain rfl : d = c := Option.some.inj head
      refine ⟨fun _ => ⟨w, rfl⟩, fun blank => ?_⟩
      simp only [isBlank, Bool.or_eq_true, decide_eq_true_eq] at blank
      rcases blank with ((rfl | rfl) | rfl) | rfl <;> contradiction
    | mark m =>
      obtain ⟨d, parts, lone⟩ := isLoneMark_spelling spaced.1
      rw [chars_cons, Item.text, parts] at head
      obtain rfl : d = c := Option.some.inj head
      refine ⟨fun inWord => ?_, fun blank => ?_⟩
      · rw [isWordContinue_of_isLoneMark lone] at inWord
        contradiction
      · simp only [isBlank, Bool.or_eq_true, decide_eq_true_eq] at blank
        rcases blank with ((rfl | rfl) | rfl) | rfl <;> contradiction
    | blank =>
      obtain rfl : ' ' = c := Option.some.inj head
      exact ⟨fun inWord => absurd inWord (by decide), fun _ => rfl⟩
    | newline =>
      obtain rfl : '\n' = c := Option.some.inj head
      exact ⟨fun inWord => absurd inWord (by decide), fun blank => absurd blank (by decide)⟩

def shape (piece : Piece) : LexemeKind × String :=
  (piece.form.kind, String.ofList piece.text)

/-- From the item and the characters behind it, the item is cut first. -/
def Item.Cut (item : Item) (lineStart : Bool) (rest : List Char) : Prop :=
  ∃ piece after, shape piece = (item.kind, item.text) ∧
    Segmentation.of lineStart (item.text.toList ++ rest) =
      ⟨piece :: (Segmentation.of after rest).pieces, (Segmentation.of after rest).obstacle?⟩

theorem cut_word (word : IsWord w) (boundary : ∀ d ∈ rest.head?, isWordContinue d = false)
    (lineStart : Bool) : (Item.word w).Cut lineStart rest := by
  obtain ⟨c, r, parts, start, inside⟩ := word
  have length : Form.word.length c (r ++ rest) = .ok r.length :=
    congrArg Except.ok (runLength_append (List.all_eq_true.mp inside) boundary)
  refine ⟨⟨.word, c, r⟩, false, ?_, ?_⟩
  · rw [shape, Piece.text, ← parts, String.ofList_toList]
    rfl
  · rw [Item.text, parts]
    exact Segmentation.of_append (of?_word start lineStart _) length

theorem cut_mark {m : Punctuation} (single : m ≠ .slash) (lineStart : Bool) (rest : List Char) :
    (Item.mark m).Cut lineStart rest := by
  obtain ⟨c, parts, lone⟩ := isLoneMark_spelling single
  refine ⟨⟨.mark, c, []⟩, false, ?_, ?_⟩
  · rw [shape, Piece.text, ← parts, String.ofList_toList]
    rfl
  · have length : Form.mark.length c ([] ++ rest) = .ok ([] : List Char).length := rfl
    rw [Item.text, parts]
    exact Segmentation.of_append (of?_mark lone lineStart _) length

theorem cut_blank (boundary : ∀ d ∈ rest.head?, isBlank d = false) (lineStart : Bool) :
    Item.blank.Cut lineStart rest := by
  have form : Form.of? lineStart ' ' ([] ++ rest) = some .blanks := by
    simp [Form.of?, isLineBreak, isBlank]
  have length : Form.blanks.length ' ' ([] ++ rest) = .ok 0 :=
    congrArg Except.ok (runLength_append (by simp) boundary)
  exact ⟨⟨.blanks, ' ', []⟩, lineStart, rfl, Segmentation.of_append form length⟩

theorem cut_newline (lineStart : Bool) (rest : List Char) :
    Item.newline.Cut lineStart rest := by
  have form : Form.of? lineStart '\n' ([] ++ rest) = some .lineBreak := rfl
  exact ⟨⟨.lineBreak, '\n', []⟩, true, rfl, Segmentation.of_append form rfl⟩

/-- Items that keep apart are cut one by one. -/
theorem cut_head (spaced : Spaced (item :: items)) (lineStart : Bool) :
    item.Cut lineStart (chars items) := by
  cases item with
  | word w =>
    obtain ⟨word, apart, spaced⟩ := spaced
    -- Only another word could make the word longer.
    refine cut_word word ?_ lineStart
    intro d head
    refine Bool.eq_false_iff.mpr fun inWord => ?_
    obtain ⟨v, next⟩ := (head_chars spaced head).1 inWord
    exact apart v next
  | mark m => exact cut_mark spaced.1 lineStart (chars items)
  | blank =>
    obtain ⟨apart, spaced⟩ := spaced
    refine cut_blank ?_ lineStart
    intro d head
    exact Bool.eq_false_iff.mpr fun blank => apart ((head_chars spaced head).2 blank)
  | newline => exact cut_newline lineStart (chars items)

theorem Spaced.tail (spaced : Spaced (item :: items)) : Spaced items := by
  cases item with
  | word w => exact spaced.2.2
  | mark m | blank => exact spaced.2
  | newline => exact spaced

/-- The pieces of a text of spaced items are the items. -/
theorem segmentation_chars (spaced : Spaced items) (lineStart : Bool) :
    ∃ pieces, Segmentation.of lineStart (chars items) = ⟨pieces, none⟩ ∧
      pieces.map shape = items.map fun item => (item.kind, item.text) := by
  induction items generalizing lineStart with
  | nil => exact ⟨[], by rw [chars, List.flatMap_nil, Segmentation.of], rfl⟩
  | cons item items ih =>
    obtain ⟨piece, after, same, cut⟩ := cut_head spaced lineStart
    obtain ⟨pieces, cutRest, shapes⟩ := ih spaced.tail after
    refine ⟨piece :: pieces, ?_, ?_⟩
    · rw [chars_cons, cut, cutRest]
    · rw [List.map_cons, List.map_cons, same, shapes]

def written (items : List Item) : String :=
  String.ofList (chars items)

@[simp] theorem written_nil : written [] = "" := rfl

@[simp] theorem written_cons (item : Item) (items : List Item) :
    written (item :: items) = item.text ++ written items := by
  apply String.toList_inj.mp
  simp [written]

@[simp] theorem written_append (items others : List Item) :
    written (items ++ others) = written items ++ written others := by
  apply String.toList_inj.mp
  simp [written, chars]

theorem written_flatMap (xs : List α) (layout : α → List Item) :
    written (xs.flatMap layout) = String.join (xs.map fun x => written (layout x)) := by
  induction xs with
  | nil => rfl
  | cons x xs ih => simp [ih]

theorem written_separated (parts : List (List Item)) :
    written (separated parts) = ", ".intercalate (parts.map written) := by
  induction parts with
  | nil => simp [separated]
  | cons part parts ih =>
    cases parts with
    | nil => simp [separated]
    | cons next parts =>
      have comma (text : String) :
          (Item.mark .comma).text ++ (Item.blank.text ++ text) = ", " ++ text :=
        String.append_assoc.symm
      rw [separated_cons_cons, written_append, written_cons, written_cons, ih, comma,
        ← String.append_assoc]
      exact String.intercalate_cons_cons.symm

/-- No byte order mark is taken off the front of a layout. -/
theorem content_written (spaced : Spaced items) :
    (Lexing.content (written items).toList).2 = chars items := by
  rw [written, String.toList_ofList]
  cases items with
  | nil => rfl
  | cons item items =>
    obtain ⟨piece, after, _, cut⟩ := cut_head spaced true
    rw [chars_cons]
    cases front : item.text.toList ++ chars items with
    | nil => rfl
    | cons c r =>
      rw [front] at cut
      refine congrArg Prod.snd (if_neg ?_)
      rintro rfl
      rw [Segmentation.of, of?_byteOrderMark] at cut
      exact List.cons_ne_nil _ _ (congrArg Segmentation.pieces cut).symm

theorem map_locate (p : Position) (pieces : List Piece) :
    (Piece.locate p pieces).map (fun x => (x.kind, x.text)) = pieces.map shape := by
  induction pieces generalizing p with
  | nil => rfl
  | cons piece pieces ih => exact congrArg (shape piece :: ·) (ih (piece.advance p))

/-- The lexemes of a layout are its items. -/
theorem lex_written (spaced : Spaced items) :
    ∃ xs, lex (written items) = .ok xs ∧
      xs.map (fun x => (x.kind, x.text)) = items.map fun item => (item.kind, item.text) := by
  obtain ⟨pieces, cut, shapes⟩ := segmentation_chars spaced true
  refine ⟨Piece.locate (Lexing.content (written items).toList).1 pieces, ?_, ?_⟩
  · simp only [lex, Lexing.of, content_written spaced, cut, Option.map_none]
  · rw [map_locate, shapes]

end Layout
end Highlight
