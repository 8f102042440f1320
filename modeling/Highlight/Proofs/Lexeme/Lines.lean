import Mathlib.Data.List.Forall2
import Mathlib.Data.List.Induction
import Highlight.Proofs.Lexeme.Composition
import Highlight.Proofs.Lexeme.Rewriting

/-! Where the lexemes of a text stand when its line breaks are written otherwise. -/
namespace Highlight

variable {style : BreakStyle} {b cs ds : List Char} {c : Char} {p q : Position}

/-- The places reached in two texts that differ in their line breaks stay near each other. -/
structure Tracks (style : BreakStyle) (near : Position → Position → Prop) : Prop where
  start : ∀ k, near (.start k) (.start k)
  after : ∀ {p q cs ds}, near p q → Rewritten style cs ds → near (p.after cs) (q.after ds)
  afterBreak : ∀ {p q cs ds}, near p q → Rewritten style cs ds →
    near (p.afterBreak cs) (q.afterBreak ds)

structure Lexeme.Rewritten (style : BreakStyle) (near : Position → Position → Prop)
    (x y : Lexeme) : Prop where
  kind : y.kind = x.kind
  text : Highlight.Rewritten style x.text.toList y.text.toList
  position : near x.position y.position

structure LexError.Becomes (near : Position → Position → Prop) (e e' : LexError) : Prop where
  fault : e'.fault = e.fault
  position : near e.position e'.position

/-- Two answers of the lexer go together: lexemes one by one, or one error with the other. -/
inductive Lexing.Together (lexeme : Lexeme → Lexeme → Prop) (error : LexError → LexError → Prop) :
    Except LexError (List Lexeme) → Except LexError (List Lexeme) → Prop
  | ok (lexemes : List.Forall₂ lexeme xs ys) : Together lexeme error (.ok xs) (.ok ys)
  | error (errors : error e e') : Together lexeme error (.error e) (.error e')

namespace Lexing.Together

variable {lexeme lexeme' : Lexeme → Lexeme → Prop} {error error' : LexError → LexError → Prop}
  {answer answer' : Except LexError (List Lexeme)}

theorem imp (together : Together lexeme error answer answer')
    (lexemes : ∀ x y, lexeme x y → lexeme' x y) (errors : ∀ e e', error e e' → error' e e') :
    Together lexeme' error' answer answer' := by
  cases together with
  | ok both => exact .ok (both.imp lexemes)
  | error both => exact .error (errors _ _ both)

theorem flip (together : Together lexeme error answer answer') :
    Together (fun x y => lexeme y x) (fun e e' => error e' e) answer' answer := by
  cases together with
  | ok both => exact .ok (List.Forall₂.flip both)
  | error both => exact .error both

end Lexing.Together

namespace Piece

variable {near : Position → Position → Prop} {piece piece' : Piece} {ps qs : List Piece}

theorem near_advance (tracks : Tracks style near) (place : near p q)
    (rewritten : piece.Rewritten style piece') : near (piece.advance p) (piece'.advance q) := by
  unfold advance
  rw [rewritten.form]
  split
  · exact tracks.afterBreak place rewritten.text
  · exact tracks.after place rewritten.text

theorem near_foldl (tracks : Tracks style near) (place : near p q)
    (pieces : List.Forall₂ (Piece.Rewritten style) ps qs) :
    near (ps.foldl advance p) (qs.foldl advance q) := by
  induction pieces generalizing p q with
  | nil => exact place
  | cons first _ ih => exact ih (near_advance tracks place first)

/-- Lexemes of the two texts stand near each other, one by one. -/
theorem near_locate (tracks : Tracks style near) (place : near p q)
    (pieces : List.Forall₂ (Piece.Rewritten style) ps qs) :
    List.Forall₂ (Lexeme.Rewritten style near) (locate p ps) (locate q qs) := by
  induction pieces generalizing p q with
  | nil => exact .nil
  | cons first _ ih =>
    refine .cons ⟨congrArg Form.kind first.form, ?_, place⟩ (ih (near_advance tracks place first))
    rw [String.toList_ofList, String.toList_ofList]
    exact first.text

end Piece

theorem Lexing.content_rewritten (rewritten : Rewritten style cs ds) :
    (content ds).1 = (content cs).1 ∧ Rewritten style (content cs).2 (content ds).2 := by
  have whole := rewritten
  cases rewritten with
  | nil => exact ⟨rfl, .nil⟩
  | @solid c cs ds solid behind =>
    simp only [content]
    split
    · exact ⟨rfl, behind⟩
    · exact ⟨rfl, whole⟩
  | lineBreak written =>
    rcases style.break_cases written with rfl | rfl | rfl <;> exact ⟨rfl, whole⟩

theorem Lexing.start_eq (text : String) :
    (content text.toList).1 = .start (leadingMark text).utf8ByteSize := by
  rw [← offset_content]
  unfold content
  cases text.toList with
  | nil => rfl
  | cons c r =>
    dsimp only
    split
    · rfl
    · rfl

/-- Such texts are cut into the same lexemes, or end in the same error, at places that are near each
other. -/
theorem lex_rewritten {near : Position → Position → Prop} {text text' : String}
    (tracks : Tracks style near) (rewritten : Rewritten style text.toList text'.toList) :
    Lexing.Together (Lexeme.Rewritten style near) (LexError.Becomes near)
      (lex text) (lex text') := by
  obtain ⟨start, behind⟩ := Lexing.content_rewritten rewritten
  have begins : near (Lexing.content text.toList).1 (Lexing.content text'.toList).1 := by
    rw [start, Lexing.start_eq]
    exact tracks.start _
  have cut : Segmentation.Rewritten style (.of true (Lexing.content text.toList).2)
    (.of true (Lexing.content text'.toList).2) := Segmentation.of_rewritten behind
  obtain ⟨pieces, obstacle⟩ := cut
  unfold lex Lexing.of
  dsimp only
  generalize (Segmentation.of true (Lexing.content text.toList).2).obstacle? = o,
    (Segmentation.of true (Lexing.content text'.toList).2).obstacle? = o' at obstacle
  cases obstacle with
  | none => exact .ok (Piece.near_locate tracks begins pieces)
  | some both =>
    have place := Piece.near_foldl tracks begins pieces
    exact .error ⟨both.fault, tracks.after place both.skipped⟩

/-! Line feeds with or without carriage returns in front of them. -/

/-- Every carriage return stands in front of a line feed. -/
def PairedReturns : List Char → Prop
  | [] => True
  | c :: cs => (c = '\r' → cs.head? = some '\n') ∧ PairedReturns cs

instance decidablePairedReturns : (cs : List Char) → Decidable (PairedReturns cs)
  | [] => inferInstanceAs (Decidable True)
  | _ :: cs =>
    have := decidablePairedReturns cs
    inferInstanceAs (Decidable (_ ∧ _))

def unpair : List Char → List Char
  | [] => []
  | c :: cs => if c = '\r' && cs.head? = some '\n' then unpair cs else c :: unpair cs

def unpaired (text : String) : String :=
  String.ofList (unpair text.toList)

structure Lexeme.Becomes (rewrite : String → String) (near : Position → Position → Prop)
    (x y : Lexeme) : Prop where
  kind : y.kind = x.kind
  text : y.text = rewrite x.text
  position : near x.position y.position

theorem BreakStyle.lineFeeds_cases (written : b ∈ lineFeeds.breaks) :
    b = ['\n'] ∨ b = ['\r', '\n'] := by
  simpa [lineFeeds] using written

theorem Rewritten.unpair_eq (rewritten : Rewritten .lineFeeds cs ds) : unpair ds = cs := by
  induction rewritten with
  | nil => rfl
  | solid solid _ ih =>
    have other := (ne_of_isLineBreak (c := '\r') rfl solid).symm
    simp [unpair, other, ih]
  | lineBreak written _ ih =>
    rcases BreakStyle.lineFeeds_cases written with rfl | rfl
    · simp [unpair, ih]
    · simp [unpair, ih]

/-- A text with paired returns is one with line feeds, rewritten. -/
theorem PairedReturns.rewritten {cs : List Char} (paired : PairedReturns cs) :
    Rewritten .lineFeeds (unpair cs) cs := by
  cases cs with
  | nil => exact .nil
  | cons c r =>
    obtain ⟨feed, behind⟩ := paired
    by_cases pair : c = '\r'
    · subst pair
      obtain ⟨r, rfl⟩ := List.head?_eq_some_iff.mp (feed rfl)
      have split : unpair ('\r' :: '\n' :: r) = '\n' :: unpair r := by simp [unpair]
      have written : ['\r', '\n'] ∈ BreakStyle.lineFeeds.breaks := by decide
      rw [split]
      exact .lineBreak written (PairedReturns.rewritten behind.2)
    · have split : unpair (c :: r) = c :: unpair r := by simp [unpair, pair]
      rw [split]
      by_cases single : c = '\n'
      · subst single
        have written : ['\n'] ∈ BreakStyle.lineFeeds.breaks := by decide
        exact .lineBreak written (PairedReturns.rewritten behind)
      · refine .solid ?_ (PairedReturns.rewritten behind)
        simp [isLineBreak, pair, single]
termination_by cs.length

structure Position.Level (p q : Position) : Prop where
  line : q.line = p.line
  column : q.column = p.column

theorem Position.Level.symm (level : p.Level q) : q.Level p :=
  ⟨level.line.symm, level.column.symm⟩

theorem Position.Level.after (level : p.Level q) (rewritten : Rewritten .lineFeeds cs ds) :
    (p.after cs).Level (q.after ds) := by
  induction rewritten generalizing p q with
  | nil => exact level
  | solid solid _ ih =>
    apply ih
    have other := (ne_of_isLineBreak (c := '\n') rfl solid).symm
    rw [next, next, if_neg other, if_neg other]
    exact ⟨level.line, congrArg (· + 1) level.column⟩
  | lineBreak written _ ih =>
    have line := congrArg (· + 1) level.line
    rcases BreakStyle.lineFeeds_cases written with rfl | rfl
    · exact ih ⟨line, rfl⟩
    · exact ih ⟨line, rfl⟩

theorem tracks_level : Tracks .lineFeeds Position.Level where
  start _ := ⟨rfl, rfl⟩
  after level rewritten := level.after rewritten
  afterBreak level _ := ⟨congrArg (· + 1) level.line, rfl⟩

/-- The place behind the characters, counted in them. Those of the mark take no column. -/
def Position.behind (mark front : String) : Position where
  line := front.toList.count '\n' + 1
  column := (front.toList.reverse.takeWhile (· ≠ '\n')).length + 1
  offset := (mark ++ front).utf8ByteSize

/-- The place behind a text counts its line feeds and the characters of its last line. -/
theorem Position.after_start (bytes : Nat) (cs : List Char) :
    (start bytes).after cs =
      ⟨cs.count '\n' + 1, (cs.reverse.takeWhile (· ≠ '\n')).length + 1, bytes + byteLength cs⟩ := by
  induction cs using List.reverseRecOn with
  | nil => rfl
  | append_singleton cs c ih =>
    rw [after_append, ih, after_cons, after_nil, List.reverse_append, List.count_append,
      byteLength_append, next]
    by_cases feed : c = '\n'
    · subst feed
      simp [byteLength, Nat.add_assoc]
    · simp [feed, byteLength, Nat.add_assoc]

/-- The place is the one that its text shows: what stands before it in its line makes the column,
and the line feeds make the line. -/
def Position.IsIn (text : String) (p : Position) : Prop :=
  ∃ front rest, text = leadingMark text ++ (front ++ rest) ∧ p = behind (leadingMark text) front

namespace Position

theorem isIn_after {front rest : List Char}
    (split : (Lexing.content text.toList).2 = front ++ rest) :
    ((Lexing.content text.toList).1.after front).IsIn text := by
  refine ⟨String.ofList front, String.ofList rest, ?_, ?_⟩
  · rw [← String.ofList_append, ← split, Lexing.leadingMark_append]
  · rw [Lexing.start_eq, after_start, behind, String.utf8ByteSize_append, String.toList_ofList,
      utf8ByteSize_ofList]

end Position

namespace Piece

/-- The places behind such pieces can be counted in their characters. -/
theorem Rewritten.advance_eq {piece piece' : Piece}
    (rewritten : piece.Rewritten .lineFeeds piece') (p : Position) :
    piece'.advance p = p.after piece'.text := by
  unfold advance
  split
  · next lineBreak =>
    rcases BreakStyle.lineFeeds_cases (rewritten.lineBreak lineBreak) with text | text
    · rw [text]
      rfl
    · rw [text]
      rfl
  · rfl

theorem foldl_advance_eq {ps : List Piece}
    (counted : ∀ piece ∈ ps, ∀ p, piece.advance p = p.after piece.text) (p : Position) :
    ps.foldl advance p = p.after (ps.flatMap text) := by
  induction ps generalizing p with
  | nil => rfl
  | cons piece ps ih =>
    rw [List.foldl_cons, counted piece List.mem_cons_self,
      ih fun piece member => counted piece (List.mem_cons_of_mem _ member), List.flatMap_cons,
      Position.after_append]

/-- A lexeme stands at the place that the pieces before it reach. -/
theorem exists_front {p : Position} {ps : List Piece} {x : Lexeme}
    (located : locate p ps = before ++ x :: after) :
    ∃ front back, ps = front ++ back ∧ locate p front = before ∧
      x.position = front.foldl advance p := by
  obtain ⟨front, back, rfl, rfl, behind⟩ := exists_split_locate located
  refine ⟨front, back, rfl, rfl, ?_⟩
  cases back with
  | nil => contradiction
  | cons piece back => rw [← (List.cons.inj behind).1]

theorem counted {ps qs : List Piece} (pieces : List.Forall₂ (Piece.Rewritten .lineFeeds) ps qs) :
    ∀ piece ∈ qs, ∀ p, piece.advance p = p.after piece.text := by
  induction pieces with
  | nil => exact nofun
  | cons first _ ih =>
    intro piece member
    rcases List.mem_cons.mp member with rfl | member
    · exact first.advance_eq
    · exact ih piece member

end Piece

theorem Lexing.lexemes_of (text : String) :
    (Lexing.of text).lexemes =
      Piece.locate (content text.toList).1 (Segmentation.of true (content text.toList).2).pieces :=
  rfl

theorem Lexing.error?_of (text : String) :
    (Lexing.of text).error? =
      (Segmentation.of true (content text.toList).2).obstacle?.map fun o =>
        ⟨o.fault, ((Segmentation.of true (content text.toList).2).pieces.foldl Piece.advance
          (content text.toList).1).after o.skipped⟩ :=
  rfl

section

variable {text : String}
  (counted : ∀ piece ∈ (Segmentation.of true (Lexing.content text.toList).2).pieces,
    ∀ p, piece.advance p = p.after piece.text)
include counted

/-- Each lexeme stands where its text shows it. -/
theorem Lexing.isIn_of_mem (member : x ∈ (Lexing.of text).lexemes) : x.position.IsIn text := by
  obtain ⟨rest, split, _⟩ := Segmentation.exists_chain true (content text.toList).2
  rw [lexemes_of] at member
  obtain ⟨before, after, located⟩ := List.append_of_mem member
  obtain ⟨front, back, cut, _, place⟩ := Piece.exists_front located
  rw [cut] at counted split
  rw [List.flatMap_append, List.append_assoc] at split
  rw [place, Piece.foldl_advance_eq]
  · exact Position.isIn_after split
  · intro piece member
    exact counted piece (List.mem_append_left back member)

theorem Lexing.isIn_of_error {e : LexError} (failed : (Lexing.of text).error? = some e) :
    e.position.IsIn text := by
  rw [error?_of, Option.map_eq_some_iff] at failed
  obtain ⟨obstacle, stopped, rfl⟩ := failed
  obtain ⟨rest, split⟩ := Segmentation.exists_behind stopped
  rw [← List.append_assoc] at split
  rw [Piece.foldl_advance_eq counted, ← Position.after_append]
  exact Position.isIn_after split

end

/-- With a line feed behind each carriage return, a text shows the places of its lexemes and of an
error. Without the carriage returns its lexemes lack them too, and nothing else changes. -/
theorem lex_paired (text : String) (paired : PairedReturns text.toList) :
    (∀ xs, lex text = .ok xs → ∀ x ∈ xs, x.position.IsIn text) ∧
      (∀ e, lex text = .error e → e.position.IsIn text) ∧
        Lexing.Together (Lexeme.Becomes unpaired Position.Level) (LexError.Becomes Position.Level)
          (lex text) (lex (unpaired text)) := by
  have rewritten : Rewritten .lineFeeds (unpaired text).toList text.toList := by
    rw [unpaired, String.toList_ofList]
    exact paired.rewritten
  have cut : Segmentation.Rewritten .lineFeeds _ (.of true (Lexing.content text.toList).2) :=
    Segmentation.of_rewritten (Lexing.content_rewritten rewritten).2
  have counted := Piece.counted cut.pieces
  refine ⟨?_, ?_, ?_⟩
  · intro xs lexed x member
    rw [← lexemes_of_lex lexed] at member
    exact Lexing.isIn_of_mem counted member
  · intro e failed
    exact Lexing.isIn_of_error counted (lex_eq_error.mp failed)
  · apply (lex_rewritten tracks_level rewritten).flip.imp
    · intro x y both
      refine ⟨both.kind.symm, ?_, both.position.symm⟩
      rw [unpaired, both.text.unpair_eq, String.ofList_toList]
    · intro e e' both
      exact ⟨both.fault.symm, both.position.symm⟩

/-- A comment over two lines, and a literal without an end behind it. -/
theorem lex_paired_comment :
    Position.IsIn "\ufeff/*\r\n*/ 'x" ⟨2, 4, 10⟩ ∧
      ∃ e, lex "\ufeff/*\n*/ 'x" = .error e ∧ Position.Level ⟨2, 4, 10⟩ e.position := by
  have failed : lex "\ufeff/*\r\n*/ 'x" = .error ⟨.unterminatedCharacter, ⟨2, 4, 10⟩⟩ := by
    decide +kernel
  obtain ⟨_, shown, together⟩ := lex_paired "\ufeff/*\r\n*/ 'x" (by decide)
  have text : unpaired "\ufeff/*\r\n*/ 'x" = "\ufeff/*\n*/ 'x" := by decide
  rw [failed, text] at together
  refine ⟨shown _ failed, ?_⟩
  generalize lex "\ufeff/*\n*/ 'x" = answer at together
  cases together with
  | error both => exact ⟨_, rfl, both.position⟩

/-! Carriage returns alone. -/

def feedToReturn (c : Char) : Char :=
  if c = '\n' then '\r' else c

/-- Each line feed becomes a carriage return. -/
def withReturns (text : String) : String :=
  text.map feedToReturn

theorem feedToReturn_of_ne (other : c ≠ '\n') : feedToReturn c = c :=
  if_neg other

theorem Rewritten.eq_map (rewritten : Rewritten .carriageReturns cs ds) :
    ds = cs.map feedToReturn := by
  induction rewritten with
  | nil => rfl
  | solid solid _ ih =>
    have other := (ne_of_isLineBreak (c := '\n') rfl solid).symm
    rw [List.map_cons, feedToReturn_of_ne other, ih]
  | lineBreak written _ ih =>
    obtain rfl := List.mem_singleton.mp written
    rw [List.map_cons, ih]
    rfl

theorem rewritten_map (noReturn : '\r' ∉ cs) :
    Rewritten .carriageReturns cs (cs.map feedToReturn) := by
  induction cs with
  | nil => exact .nil
  | cons c cs ih =>
    obtain ⟨other, noReturn⟩ := not_or.mp (mt List.mem_cons.mpr noReturn)
    have behind := ih noReturn
    rw [List.map_cons]
    by_cases feed : c = '\n'
    · subst feed
      exact .lineBreak List.mem_cons_self behind
    · rw [feedToReturn_of_ne feed]
      refine .solid ?_ behind
      simp [isLineBreak, feed, Ne.symm other]

theorem Rewritten.byteLength_eq (rewritten : Rewritten .carriageReturns cs ds) :
    byteLength ds = byteLength cs := by
  induction rewritten with
  | nil => rfl
  | solid _ _ ih => rw [byteLength, byteLength, ih]
  | lineBreak written _ ih =>
    obtain rfl := List.mem_singleton.mp written
    rw [byteLength_append, ih]
    rfl

namespace Position

/-- The place in no later line, and in the same column if it is in the same line. -/
structure Lags (p q : Position) : Prop where
  offset : q.offset = p.offset
  line : q.line ≤ p.line
  column : q.line = p.line → q.column = p.column

/-- A lone carriage return starts no line, so that places after it lag behind. -/
theorem Lags.after (lags : p.Lags q) (rewritten : Rewritten .carriageReturns cs ds) :
    (p.after cs).Lags (q.after ds) := by
  induction rewritten generalizing p q with
  | nil => exact lags
  | solid solid _ ih =>
    apply ih
    have other := (ne_of_isLineBreak (c := '\n') rfl solid).symm
    rw [next, next, if_neg other, if_neg other]
    constructor
    · exact congrArg (· + _) lags.offset
    · exact lags.line
    · intro line
      exact congrArg (· + 1) (lags.column line)
  | lineBreak written _ ih =>
    obtain rfl := List.mem_singleton.mp written
    apply ih
    have line := lags.line
    constructor
    · exact congrArg (· + 1) lags.offset
    · exact Nat.le_succ_of_le lags.line
    · intro same
      have same : q.line = p.line + 1 := same
      omega

theorem tracks_lags : Tracks .carriageReturns Lags where
  start _ := ⟨rfl, Nat.le_refl _, fun _ => rfl⟩
  after lags rewritten := lags.after rewritten
  afterBreak lags rewritten := by
    constructor
    · rw [afterBreak, afterBreak, rewritten.byteLength_eq, lags.offset]
    · exact Nat.succ_le_succ lags.line
    · intro _
      rfl

/-- The place behind lexemes of which only line breaks end a line. -/
def behindLexemes (mark : String) (xs : List Lexeme) : Position where
  line := xs.countP (·.kind = .newline) + 1
  column := ((xs.reverse.takeWhile (·.kind ≠ .newline)).map (·.text.length)).sum + 1
  offset := (mark ++ String.join (xs.map Lexeme.text)).utf8ByteSize

/-- Without line feeds, the place stays in its line. -/
theorem after_of_noFeed (noFeed : '\n' ∉ cs) (p : Position) :
    p.after cs = ⟨p.line, p.column + cs.length, p.offset + byteLength cs⟩ := by
  induction cs generalizing p with
  | nil => rfl
  | cons c cs ih =>
    obtain ⟨other, noFeed⟩ := not_or.mp (mt List.mem_cons.mpr noFeed)
    rw [after_cons, ih noFeed, next, if_neg (Ne.symm other), List.length_cons, byteLength]
    dsimp only
    rw [Nat.add_assoc, Nat.add_assoc, Nat.add_comm 1]

end Position

/-- A lexeme without line feeds that stands behind the others ends where they all end. -/
theorem Lexeme.stop_eq {x : Lexeme} (place : x.position = .behindLexemes mark xs)
    (noFeed : '\n' ∉ x.text.toList) : x.stop = .behindLexemes mark (xs ++ [x]) := by
  have bytes : (mark ++ String.join ((xs ++ [x]).map Lexeme.text)).utf8ByteSize =
      (mark ++ String.join (xs.map Lexeme.text)).utf8ByteSize + byteLength x.text.toList := by
    rw [← utf8ByteSize_ofList, String.ofList_toList, ← String.utf8ByteSize_append,
      String.append_assoc]
    simp
  rw [Position.behindLexemes, bytes, List.reverse_append, List.countP_append]
  unfold stop
  split
  · next newline =>
    simp [newline, place, Position.behindLexemes, Position.afterBreak]
  · next other =>
    have column (n : Nat) : n + 1 + x.text.length = x.text.length + n + 1 := by omega
    rw [Position.after_of_noFeed noFeed, String.length_toList]
    simp [other, place, Position.behindLexemes, column]

namespace Piece

theorem locate_concat (p : Position) (ps : List Piece) (piece : Piece) :
    locate p (ps ++ [piece]) =
      locate p ps ++ [⟨piece.form.kind, String.ofList piece.text, ps.foldl advance p⟩] :=
  locate_append p ps [piece]

theorem foldl_advance_of_noFeed {ps : List Piece} (noFeed : '\n' ∉ ps.flatMap text)
    (mark : String) :
    ps.foldl advance (.start mark.utf8ByteSize) =
      .behindLexemes mark (locate (.start mark.utf8ByteSize) ps) := by
  induction ps using List.reverseRecOn with
  | nil =>
    rw [locate, Position.behindLexemes, List.map_nil, String.join_nil, String.append_empty]
    rfl
  | append_singleton ps piece ih =>
    rw [List.flatMap_append, List.mem_append, not_or] at noFeed
    have last : '\n' ∉ (String.ofList piece.text).toList := by simpa using noFeed.2
    rw [List.foldl_append, List.foldl_cons, List.foldl_nil, locate_concat,
      ← Lexeme.stop_eq_advance]
    exact Lexeme.stop_eq (ih noFeed.1) last

end Piece

theorem Lexing.not_mem_content (other : c ∉ cs) : c ∉ (content cs).2 := by
  cases cs with
  | nil => exact other
  | cons d r =>
    dsimp only [content]
    split
    · exact fun member => other (List.mem_cons_of_mem d member)
    · exact other

section

variable {text : String} (noFeed : '\n' ∉ text.toList)
include noFeed

/-- Without line feeds only the lexemes that are line breaks count as lines. -/
theorem Lexing.position_of_noFeed {x : Lexeme}
    (split : (Lexing.of text).lexemes = before ++ x :: after) :
    x.position = .behindLexemes (leadingMark text) before := by
  obtain ⟨rest, texts, _⟩ := Segmentation.exists_chain true (content text.toList).2
  have inside := not_mem_content noFeed
  rw [lexemes_of] at split
  obtain ⟨front, back, cut, located, place⟩ := Piece.exists_front split
  rw [texts, cut, List.flatMap_append, List.append_assoc, List.mem_append, not_or] at inside
  rw [place, ← located, start_eq]
  exact Piece.foldl_advance_of_noFeed inside.1 _

theorem Lexing.line_of_noFeed {e : LexError} (failed : (Lexing.of text).error? = some e) :
    e.position.line = (Lexing.of text).lexemes.countP (·.kind = .newline) + 1 := by
  rw [error?_of, Option.map_eq_some_iff] at failed
  obtain ⟨obstacle, stopped, rfl⟩ := failed
  obtain ⟨rest, texts⟩ := Segmentation.exists_behind stopped
  have inside := not_mem_content noFeed
  rw [texts, List.mem_append, List.mem_append, not_or, not_or] at inside
  rw [start_eq, Piece.foldl_advance_of_noFeed inside.1, Position.after_of_noFeed inside.2.1,
    ← start_eq]
  rfl

end

/-- A text without carriage returns, and the same text with carriage returns for its line feeds,
are cut alike. But then no line starts inside of a lexeme, and what stands behind the lexeme has the
line and the column that it would have if the lexeme were one line. -/
theorem lex_withReturns (text : String) (noReturn : '\r' ∉ text.toList) :
    Lexing.Together (Lexeme.Becomes withReturns Position.Lags) (LexError.Becomes Position.Lags)
        (lex text) (lex (withReturns text)) ∧
      (∀ before x after, lex (withReturns text) = .ok (before ++ x :: after) →
        x.position = .behindLexemes (leadingMark (withReturns text)) before) ∧
        ∀ e, lex (withReturns text) = .error e →
          e.position.line =
            (Lexing.of (withReturns text)).lexemes.countP (·.kind = .newline) + 1 := by
  have characters : (withReturns text).toList = text.toList.map feedToReturn :=
    String.toList_map
  have rewritten : Rewritten .carriageReturns text.toList (withReturns text).toList := by
    rw [characters]
    exact rewritten_map noReturn
  have noFeed : '\n' ∉ (withReturns text).toList := by
    rw [characters]
    intro member
    obtain ⟨c, _, feed⟩ := List.mem_map.mp member
    by_cases other : c = '\n'
    · subst other
      contradiction
    · rw [feedToReturn_of_ne other] at feed
      exact other feed
  refine ⟨?_, ?_, ?_⟩
  · apply (lex_rewritten Position.tracks_lags rewritten).imp
    · intro x y both
      refine ⟨both.kind, ?_, both.position⟩
      rw [← String.toList_inj, both.text.eq_map, withReturns, String.toList_map]
    · intro e e' both
      exact both
  · intro before x after lexed
    exact Lexing.position_of_noFeed noFeed (lexemes_of_lex lexed)
  · intro e failed
    exact Lexing.line_of_noFeed noFeed (lex_eq_error.mp failed)

/-- Behind a comment with a carriage return inside, it is the line break that starts a line. -/
theorem lex_withReturns_comment :
    ∃ before, lex (withReturns "/*\n*/\nx") = .ok (before ++ [⟨.word, "x", ⟨2, 1, 6⟩⟩]) ∧
      ⟨2, 1, 6⟩ = Position.behindLexemes "" before := by
  have lexed : lex (withReturns "/*\n*/\nx") = .ok ([⟨.comment, "/*\r*/", ⟨1, 1, 0⟩⟩,
    ⟨.newline, "\r", ⟨1, 6, 5⟩⟩] ++ [⟨.word, "x", ⟨2, 1, 6⟩⟩]) := by decide +kernel
  have noMark : leadingMark (withReturns "/*\n*/\nx") = "" := by decide +kernel
  obtain ⟨_, places, _⟩ := lex_withReturns "/*\n*/\nx" (by decide)
  rw [noMark] at places
  exact ⟨_, lexed, places _ _ _ lexed⟩

/-- The lexeme has the same kind, in the same line and column. -/
structure Lexeme.Level (x y : Lexeme) : Prop where
  kind : y.kind = x.kind
  position : x.position.Level y.position

/-- Behind a comment with a carriage return inside, the lines and columns are not those behind a
comment with a line feed. -/
theorem not_level_withReturns :
    ¬∀ text : String, '\r' ∉ text.toList →
      Lexing.Together Lexeme.Level (LexError.Becomes Position.Level)
        (lex text) (lex (withReturns text)) := by
  intro level
  have together := level "/*\n*/x" (by decide)
  have feed : lex "/*\n*/x" = .ok [⟨.comment, "/*\n*/", ⟨1, 1, 0⟩⟩, ⟨.word, "x", ⟨2, 3, 5⟩⟩] := by
    decide +kernel
  have alone : lex (withReturns "/*\n*/x") =
      .ok [⟨.comment, "/*\r*/", ⟨1, 1, 0⟩⟩, ⟨.word, "x", ⟨1, 6, 5⟩⟩] := by decide +kernel
  rw [feed, alone] at together
  cases together with
  | ok lexemes =>
    cases lexemes with
    | cons _ behind =>
      cases behind with
      | cons word _ => exact absurd word.position.line (by decide)

end Highlight
