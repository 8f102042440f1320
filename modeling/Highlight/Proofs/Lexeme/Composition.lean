import Highlight.Proofs.Classification.Relocation
import Highlight.Proofs.Lexeme.Tiling

/-! A text may be cut line by line: what stands behind a line feed is cut as a text of its own, only
at other places. -/
namespace Highlight

section

variable {body rest : List Char}

theorem getLast?_cons_of_some {a b : α} {l : List α} (last : l.getLast? = some a) :
    (b :: l).getLast? = some a := by
  rw [List.getLast?_cons, last]
  rfl

theorem Delimited.getLast? (delimited : Delimited d body) : body.getLast? = some d := by
  induction delimited with
  | close => rfl
  | escape _ _ _ ih => exact getLast?_cons_of_some (getLast?_cons_of_some ih)
  | pass _ _ _ _ ih => exact getLast?_cons_of_some ih

theorem Doubled.getLast? (doubled : Doubled body) : body.getLast? = some '"' := by
  induction doubled with
  | close => rfl
  | pair _ ih => exact getLast?_cons_of_some (getLast?_cons_of_some ih)
  | pass _ _ ih => exact getLast?_cons_of_some ih

theorem RawTail.getLast? (tail : RawTail quotes run body) (nonempty : body ≠ []) :
    body.getLast? = some '"' := by
  induction tail with
  | done => exact absurd rfl nonempty
  | @quote run body behind ih =>
    cases body with
    | nil => rfl
    | cons c body => exact getLast?_cons_of_some (ih nofun)
  | pass other few behind ih =>
    refine getLast?_cons_of_some (ih ?_)
    rintro rfl
    cases behind with
    | done enough => omega

theorem CommentTail.getLast? (tail : CommentTail body) : body.getLast? = some '/' := by
  induction tail with
  | close => rfl
  | pass _ _ ih => exact getLast?_cons_of_some ih

theorem Interpolation.Closes.getLast? (closes : Closes verbatim rest holes body) :
    body.getLast? = some '"' := by
  induction closes with
  | close found =>
    obtain ⟨_, rfl, _⟩ := move_eq_close.mp found
    rfl
  | pass _ _ ih => exact getLast?_cons_of_some (by rw [List.getLast?_append, ih]; rfl)

theorem StringStyle.Reads.getLast? {style : StringStyle}
    (reads : style.Reads (body ++ rest) body.length) (nonempty : body ≠ []) :
    body.getLast? = some '"' := by
  cases style with
  | plain => exact (delimitedLength?_append.mp reads).getLast?
  | verbatim => exact (doubledLength?_append.mp reads).1.getLast?
  | raw quotes => exact (rawLength?_append.mp reads).1.getLast? nonempty
  | interpolated verbatim => exact (interpolatedLength_append.mp reads).getLast?

/-- A string ends in a quote. -/
theorem Opening.getLast? {opening : Opening} {tail : List Char}
    (found : of? (c :: (tail ++ rest)) = some opening)
    (read : opening.length (tail ++ rest) = .ok tail.length) : tail.getLast? = some '"' := by
  obtain ⟨_, reads⟩ := length_append.mp read
  have positive := (of?_eq_some.mp found).positive reads
  have last := reads.getLast? (List.length_pos_iff.mp positive)
  rw [← List.take_append_drop opening.ahead tail, List.getLast?_append, last]
  rfl

theorem mem_numberLength (read : numberLength (body ++ rest) = body.length) (member : c ∈ body) :
    c.isAlphanum = true ∨ c = '_' ∨ c = '.' := by
  induction body with
  | nil => contradiction
  | cons d body ih =>
    rw [List.cons_append, numberLength] at read
    split at read
    · next inside =>
      rcases List.mem_cons.mp member with rfl | member
      · simp only [Bool.or_eq_true, Bool.and_eq_true, decide_eq_true_eq] at inside
        exact inside.elim (·.imp id .inl) fun point => .inr (.inr point.1)
      · exact ih (Nat.succ.inj read) member
    · contradiction

end

theorem Form.run?_lineFeed {form : Form} {p : Char → Bool} (run : form.run? = some p) :
    p '\n' = false := by
  cases form <;> cases run <;> decide

/-- What a lexeme goes on with ends in a line feed only if it is a line break. -/
theorem Form.Reaches.lineBreak_of_getLast? {form : Form} {tail : List Char}
    (reaches : Reaches c rest form tail) (starts : Starts lineStart c (tail ++ rest) form)
    (last : tail.getLast? = some '\n') : form = .lineBreak := by
  have ends {d : Char} (close : tail.getLast? = some d) (other : d ≠ '\n') : form = .lineBreak :=
    absurd (Option.some.inj (close.symm.trans last)) other
  cases reaches with
  | lineBreak | lineBreakPair => rfl
  | run run inside =>
    have inRun := inside _ (List.mem_of_getLast? last)
    rw [run?_lineFeed run] at inRun
    contradiction
  | blockComment closes => exact ends (getLast?_cons_of_some closes.getLast?) (by decide)
  | string read =>
    cases starts with
    | string found => exact ends (Opening.getLast? found read) (by decide)
  | character closes => exact ends closes.getLast? (by decide)
  | number read =>
    have inNumber := mem_numberLength read (List.mem_of_getLast? last)
    simp at inNumber
  | mark => contradiction

/-- Of all pieces only a line break may end in a line feed. -/
theorem Piece.Cuts.lineBreak_of_getLast? {piece : Piece} (cuts : piece.Cuts lineStart rest)
    (last : piece.text.getLast? = some '\n') : piece.form = .lineBreak := by
  obtain ⟨form, c, tail⟩ := piece
  cases tail with
  | nil =>
    obtain rfl : c = '\n' := Option.some.inj last
    exact cuts.form_eq (.lineBreak rfl)
  | cons d tail =>
    rw [text, List.getLast?_cons_cons] at last
    exact cuts.reaches.lineBreak_of_getLast? cuts.starts last

theorem head?_lineFeed (front r : List Char) :
    (front ++ '\n' :: r).head? = (front ++ ['\n']).head? := by
  cases front <;> rfl

/-- The characters behind a line feed have no part in what starts a lexeme before it. -/
theorem Form.of?_lineFeed (c : Char) (front r s : List Char) :
    of? lineStart c (front ++ '\n' :: r) = of? lineStart c (front ++ '\n' :: s) := by
  have opening :
      Opening.of? (c :: (front ++ '\n' :: r)) = Opening.of? (c :: (front ++ '\n' :: s)) :=
    Opening.of?_shield rfl (by decide) (c :: front) r s
  unfold of?
  rw [opening, head?_lineFeed front r, head?_lineFeed front s]

theorem numberLength_lineFeed (front r s : List Char)
    (stop : numberLength (front ++ '\n' :: r) = 0) :
    numberLength (front ++ '\n' :: s) = 0 := by
  cases front with
  | nil => rfl
  | cons c front =>
    simp only [List.cons_append, numberLength, head?_lineFeed front r, head?_lineFeed front s]
      at stop ⊢
    split at stop
    · contradiction
    · next outside => rw [if_neg outside]

namespace Piece

variable {piece : Piece} {ps : List Piece} {rest : List Char}

/-- The pieces of whole lines are cut alike in front of anything. -/
theorem Cuts.append (cuts : piece.Cuts lineStart rest) (last : rest.getLast? = some '\n')
    (other : List Char) : piece.Cuts lineStart (rest ++ other) := by
  obtain ⟨front, rfl⟩ := List.getLast?_eq_some_iff.mp last
  refine cuts.exchange ?_ ?_ ?_ ?_
  · rw [List.append_assoc, List.singleton_append, head?_lineFeed]
    exact id
  · exact cuts.lineStart_of_directive
  · intro number
    rw [List.append_assoc]
    exact numberLength_lineFeed front [] other (cuts.numberLength_eq_zero number)
  · intro mark
    rw [List.append_assoc]
    exact (Form.of?_lineFeed _ front other []).trans (cuts.of?_of_mark mark)

theorem Cuts.lineBreak_append (cuts : piece.Cuts lineStart [])
    (last : piece.text.getLast? = some '\n')
    (other : List Char) : piece.Cuts lineStart other := by
  have lineBreak := cuts.lineBreak_of_getLast? last
  obtain ⟨form, c, tail⟩ := piece
  obtain rfl : form = .lineBreak := lineBreak
  refine cuts.exchange (fun takes => ?_) nofun nofun nofun
  obtain ⟨d, _, takes⟩ := (Option.any_eq_true ..).mp takes
  simp only [Piece.takes, Bool.and_eq_true, decide_eq_true_eq] at takes
  rw [takes.1] at last
  contradiction

/-- Pieces up to a line feed are cut in front of any other text as well. -/
theorem Chain.append (chain : Chain lineStart ps []) (last : (ps.flatMap text).getLast? = some '\n')
    (other : List Char) :
    Chain lineStart ps other ∧ ∃ front piece, ps = front ++ [piece] ∧ piece.form = .lineBreak := by
  induction ps generalizing lineStart with
  | nil => contradiction
  | cons piece ps ih =>
    obtain ⟨cuts, chain⟩ := chain
    rw [List.append_nil] at cuts
    cases ps with
    | nil =>
      rw [List.flatMap_singleton] at last
      exact ⟨⟨cuts.lineBreak_append last other, trivial⟩, [], piece, rfl,
        cuts.lineBreak_of_getLast? last⟩
    | cons next ps =>
      have last : ((next :: ps).flatMap text).getLast? = some '\n' := by
        rw [List.flatMap_cons, List.getLast?_append] at last
        rwa [List.getLast?_eq_some_getLast (by simp [text])] at last ⊢
      obtain ⟨chain, front, final, split, lineBreak⟩ := ih chain last
      exact ⟨⟨cuts.append last other, chain⟩, piece :: front, final, by rw [split]; rfl, lineBreak⟩

end Piece

/-- Lines further down and bytes further on, in the same column. -/
def Position.shift (lines bytes : Nat) (p : Position) : Position :=
  ⟨p.line + lines, p.column, p.offset + bytes⟩

section

variable {lines bytes : Nat}

theorem Position.shift_next (p : Position) (c : Char) :
    (p.shift lines bytes).next c = (p.next c).shift lines bytes := by
  unfold next shift
  dsimp only
  split <;> rw [Nat.add_right_comm p.offset]
  rw [Nat.add_right_comm p.line]

theorem Position.shift_after (p : Position) (cs : List Char) :
    (p.shift lines bytes).after cs = (p.after cs).shift lines bytes := by
  induction cs generalizing p with
  | nil => rfl
  | cons c cs ih => rw [after_cons, shift_next, ih, after_cons]

namespace Piece

theorem shift_advance (p : Position) (piece : Piece) :
    piece.advance (p.shift lines bytes) = (piece.advance p).shift lines bytes := by
  unfold advance
  split
  · rw [Position.afterBreak, Position.afterBreak, Position.shift, Position.shift,
      Nat.add_right_comm p.offset, Nat.add_right_comm p.line]
  · exact p.shift_after piece.text

theorem shift_locate (p : Position) (ps : List Piece) :
    locate (p.shift lines bytes) ps =
      (locate p ps).map (Lexeme.relocate (Position.shift lines bytes)) := by
  induction ps generalizing p with
  | nil => rfl
  | cons piece ps ih =>
    rw [locate, shift_advance, ih]
    rfl

theorem shift_foldl (p : Position) (ps : List Piece) :
    ps.foldl advance (p.shift lines bytes) = (ps.foldl advance p).shift lines bytes := by
  induction ps generalizing p with
  | nil => rfl
  | cons piece ps ih => rw [List.foldl_cons, shift_advance, ih, List.foldl_cons]

theorem locate_append (p : Position) (ps qs : List Piece) :
    locate p (ps ++ qs) = locate p ps ++ locate (ps.foldl advance p) qs := by
  induction ps generalizing p with
  | nil => rfl
  | cons piece ps ih => exact congrArg (_ :: ·) (ih (piece.advance p))

theorem exists_split_locate {p : Position} {ps : List Piece}
    (split : locate p ps = before ++ after) :
    ∃ front back, ps = front ++ back ∧ locate p front = before ∧
      locate (front.foldl advance p) back = after := by
  induction before generalizing p ps with
  | nil => exact ⟨[], ps, rfl, rfl, split⟩
  | cons x before ih =>
    cases ps with
    | nil => contradiction
    | cons piece ps =>
      obtain ⟨rfl, rest⟩ := List.cons_eq_cons.mp split
      obtain ⟨front, back, rfl, rfl, behind⟩ := ih rest
      exact ⟨piece :: front, back, rfl, rfl, behind⟩

end Piece

end

def LexError.relocate (f : Position → Position) (e : LexError) : LexError :=
  { e with position := f e.position }

/-- What the lexer answers, when what it answered stands elsewhere and behind `xs`. -/
def Lexing.relocate (f : Position → Position) (xs : List Lexeme) :
    Except LexError (List Lexeme) → Except LexError (List Lexeme)
  | .ok ys => .ok (xs ++ ys.map (Lexeme.relocate f))
  | .error e => .error (e.relocate f)

def Lexeme.stop (x : Lexeme) : Position :=
  if x.kind = .newline then x.position.afterBreak x.text.toList
  else x.position.after x.text.toList

/-- The place that is reached at the end of a text. -/
def placeBehind (xs : List Lexeme) : Position :=
  match xs.getLast? with
  | none => .start 0
  | some x => x.stop

theorem Lexeme.stop_eq_advance (p : Position) (piece : Piece) :
    (⟨piece.form.kind, String.ofList piece.text, p⟩ : Lexeme).stop = piece.advance p := by
  obtain ⟨form, c, tail⟩ := piece
  cases form <;> simp [stop, Piece.advance, Form.kind]

theorem placeBehind_locate (p : Position) (ps : List Piece) (piece : Piece) :
    placeBehind (Piece.locate p (ps ++ [piece])) = (ps ++ [piece]).foldl Piece.advance p := by
  have last : (Piece.locate p (ps ++ [piece])).getLast? =
      some ⟨piece.form.kind, String.ofList piece.text, ps.foldl Piece.advance p⟩ := by
    rw [Piece.locate_append]
    exact List.getLast?_concat
  simp only [placeBehind, last, Lexeme.stop_eq_advance, List.foldl_append, List.foldl_cons,
    List.foldl_nil]

theorem Piece.offset_foldl (p : Position) (ps : List Piece) :
    (ps.foldl advance p).offset = p.offset + byteLength (ps.flatMap text) := by
  induction ps generalizing p with
  | nil => rfl
  | cons piece ps ih =>
    rw [List.foldl_cons, ih, offset_advance, List.flatMap_cons, byteLength_append, Nat.add_assoc]

/-- No piece starts with a byte order mark. -/
theorem Piece.Chain.head? (chain : Chain lineStart ps rest)
    (noMark : rest.head? ≠ some Lexing.byteOrderMark) :
    (ps.flatMap text ++ rest).head? ≠ some Lexing.byteOrderMark := by
  cases ps with
  | nil => exact noMark
  | cons piece ps =>
    intro mark
    have form := chain.1.form
    rw [Option.some.inj mark, of?_byteOrderMark] at form
    contradiction

namespace Lexing

theorem content_of_head? (noMark : cs.head? ≠ some byteOrderMark) :
    content cs = (.start 0, cs) := by
  cases cs with
  | nil => rfl
  | cons c r => exact if_neg fun mark => noMark (congrArg some mark)

/-- A byte order mark in front moves the content of a text and does nothing else. -/
theorem content_leadingMark (text : String) (noMark : cs.head? ≠ some byteOrderMark) :
    content ((leadingMark text).toList ++ cs) = ((content text.toList).1, cs) := by
  unfold leadingMark
  cases text.toList with
  | nil => exact content_of_head? noMark
  | cons c r =>
    by_cases mark : c = byteOrderMark
    · simp [content, mark]
    · simpa [content, mark] using content_of_head? noMark

theorem content_append (nonempty : cs ≠ []) (ds : List Char) :
    content (cs ++ ds) = ((content cs).1, (content cs).2 ++ ds) := by
  obtain ⟨c, r, rfl⟩ := List.exists_cons_of_ne_nil nonempty
  simp only [List.cons_append, content]
  split <;> rfl

theorem getLast?_content (last : cs.getLast? = some c) (other : c ≠ byteOrderMark) :
    (content cs).2.getLast? = some c := by
  cases cs with
  | nil => contradiction
  | cons d r =>
    simp only [content]
    split
    · next mark =>
      cases r with
      | nil => exact absurd ((Option.some.inj last).symm.trans mark) other
      | cons => rwa [List.getLast?_cons_cons] at last
    · exact last

theorem utf8ByteSize_eq (text : String) :
    text.utf8ByteSize = (content text.toList).1.offset + byteLength (content text.toList).2 := by
  rw [offset_content, ← utf8ByteSize_ofList, ← String.utf8ByteSize_append, leadingMark_append]

end Lexing

/-- Behind whole lines a text is cut as if it stood alone. -/
theorem lex_behind {text b : String} (p : Position) (ps : List Piece)
    (content : Lexing.content text.toList = (p, ps.flatMap Piece.text ++ b.toList))
    (noMark : b.toList.head? ≠ some Lexing.byteOrderMark)
    (chain : Piece.Chain true ps b.toList) (start : Piece.lineStartAfter true ps = true)
    (place : ps.foldl Piece.advance p = (Position.start 0).shift lines bytes) :
    lex text = Lexing.relocate (.shift lines bytes) (Piece.locate p ps) (lex b) := by
  have cut := Segmentation.of_chain chain
  rw [start] at cut
  unfold lex Lexing.of
  rw [content, Lexing.content_of_head? noMark]
  dsimp only
  rw [cut]
  dsimp only
  rw [Piece.locate_append, List.foldl_append, place, Piece.shift_locate, Piece.shift_foldl]
  cases (Segmentation.of true b.toList).obstacle? with
  | none => rfl
  | some obstacle =>
    simp only [Option.map_some, Position.shift_after]
    rfl

/-- A text that ends in a line feed leaves nothing open, so what is appended to it is cut as if it
stood alone. So is what stands behind a byte order mark. -/
theorem lex_append (b : String) (noMark : b.toList.head? ≠ some Lexing.byteOrderMark) :
    (∀ a xs, a.toList.getLast? = some '\n' → lex a = .ok xs →
      ∃ lines, placeBehind xs = ⟨lines + 1, 1, a.utf8ByteSize⟩ ∧
        lex (a ++ b) = Lexing.relocate (.shift lines a.utf8ByteSize) xs (lex b)) ∧
      lex (String.singleton Lexing.byteOrderMark ++ b) =
        Lexing.relocate (.shift 0 3) [] (lex b) := by
  constructor
  · intro a xs last lexed
    obtain ⟨ps, chain, texts, rfl⟩ := lex_eq_ok.mp lexed
    have nonempty : a.toList ≠ [] := by
      intro empty
      rw [empty] at last
      contradiction
    have lastOfContent := Lexing.getLast?_content last (by decide)
    have size := Lexing.utf8ByteSize_eq a
    rw [texts] at lastOfContent size
    obtain ⟨chain, front, piece, rfl, lineBreak⟩ := chain.append lastOfContent b.toList
    have bytes := Piece.offset_foldl (Lexing.content a.toList).1 (front ++ [piece])
    rw [← size] at bytes
    have place : (front ++ [piece]).foldl Piece.advance (Lexing.content a.toList).1 =
        ⟨(front.foldl Piece.advance (Lexing.content a.toList).1).line + 1, 1, a.utf8ByteSize⟩ := by
      rw [← bytes, List.foldl_append, List.foldl_cons, List.foldl_nil, Piece.advance,
        if_pos lineBreak]
      rfl
    refine ⟨_, (placeBehind_locate _ front piece).trans place, ?_⟩
    refine lex_behind _ _ ?_ noMark chain ?_ ?_
    · rw [String.toList_append, Lexing.content_append nonempty, texts]
    · rw [Piece.lineStartAfter, List.foldl_append, List.foldl_cons, List.foldl_nil, lineBreak]
      rfl
    · rw [place, Position.shift, Position.start, Nat.add_comm, Nat.zero_add]
  · refine lex_behind (.start 3) [] ?_ noMark trivial rfl rfl
    rw [String.toList_append, String.toList_singleton]
    rfl

/-- A comment of two lines and a line break of two characters, and then a literal without an end. -/
theorem lex_append_comment :
    lex ("\ufeff/*\n*/\r\n" ++ "x 'y") = .error ⟨.unterminatedCharacter, ⟨3, 3, 12⟩⟩ ∧
      lex (String.singleton Lexing.byteOrderMark ++ "x 'y") =
        .error ⟨.unterminatedCharacter, ⟨1, 3, 5⟩⟩ := by
  obtain ⟨behindLines, behindMark⟩ := lex_append "x 'y" (by decide)
  have alone : lex "x 'y" = .error ⟨.unterminatedCharacter, ⟨1, 3, 2⟩⟩ := by decide +kernel
  obtain ⟨lines, place, read⟩ := behindLines "\ufeff/*\n*/\r\n"
    [⟨.comment, "/*\n*/", ⟨1, 1, 3⟩⟩, ⟨.newline, "\r\n", ⟨2, 3, 8⟩⟩] rfl (by decide +kernel)
  obtain rfl : lines = 2 := (Nat.succ.inj (congrArg Position.line place)).symm
  rw [read, behindMark, alone]
  exact ⟨rfl, rfl⟩

end Highlight
