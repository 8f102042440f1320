import Mathlib.Algebra.GroupWithZero.Nat
import Highlight.Proofs.Lexeme.Cut

/-! The lexemes of a text tile it: they are not empty, and each starts at the byte where the one
before it ends. -/
namespace Highlight

theorem utf8ByteSize_ofList (cs : List Char) :
    (String.ofList cs).utf8ByteSize = byteLength cs := by
  induction cs with
  | nil => rfl
  | cons c cs ih =>
    rw [← List.singleton_append, String.ofList_append, String.utf8ByteSize_append, ih,
      ← String.singleton_eq_ofList, String.utf8ByteSize_singleton]
    rfl

theorem utf8ByteSize_join (texts : List String) :
    (String.join texts).utf8ByteSize = (texts.map String.utf8ByteSize).sum := by
  induction texts with
  | nil => rfl
  | cons text texts ih =>
    rw [String.join_cons, String.utf8ByteSize_append, ih, List.map_cons, List.sum_cons]

theorem extract_middle (a b c : String) :
    (a ++ (b ++ c)).toByteArray.extract a.utf8ByteSize (a.utf8ByteSize + b.utf8ByteSize) =
      b.toByteArray := by
  rw [String.toByteArray_append, String.toByteArray_append]
  refine (ByteArray.extract_append_size_add' (i := 0) rfl).trans ?_
  exact ByteArray.extract_append_eq_left rfl

def leadingMark (text : String) : String :=
  if text.toList.head? = some Lexing.byteOrderMark then String.singleton Lexing.byteOrderMark
  else ""

/-- A stretch of a text: its first byte and its characters. -/
structure Extent where
  offset : Nat
  text : String
deriving DecidableEq, Repr

namespace Extent

def stop (e : Extent) : Nat :=
  e.offset + e.text.utf8ByteSize

def Holds (e : Extent) (b : Nat) : Prop :=
  e.offset ≤ b ∧ b < e.stop

end Extent

def Lexeme.extent (x : Lexeme) : Extent :=
  ⟨x.position.offset, x.text⟩

/-- The stretches lie one after the other, the first at the offset `o`. -/
def Contiguous (o : Nat) : List Extent → Prop
  | [] => True
  | e :: es => e.offset = o ∧ Contiguous e.stop es

namespace Contiguous

variable {o : Nat} {e : Extent} {es : List Extent}

theorem offset (tiles : Contiguous o (before ++ e :: after)) :
    e.offset = o + (String.join (before.map Extent.text)).utf8ByteSize := by
  induction before generalizing o with
  | nil => exact tiles.1
  | cons d before ih =>
    rw [ih tiles.2, Extent.stop, tiles.1, List.map_cons, String.join_cons,
      String.utf8ByteSize_append, Nat.add_assoc]

theorem start_le (tiles : Contiguous o es) (member : e ∈ es) : o ≤ e.offset := by
  obtain ⟨before, after, rfl⟩ := List.append_of_mem member
  rw [tiles.offset]
  exact Nat.le_add_right ..

theorem pairwise (tiles : Contiguous o es) : es.Pairwise fun d e => d.stop ≤ e.offset := by
  induction es generalizing o with
  | nil => exact .nil
  | cons e es ih => exact .cons (fun d member => tiles.2.start_le member) (ih tiles.2)

/-- Every byte from the first stretch to the end of the last belongs to one of them. -/
theorem exists_holds (tiles : Contiguous o es) (above : o ≤ b)
    (below : b < o + (String.join (es.map Extent.text)).utf8ByteSize) : ∃ e ∈ es, e.Holds b := by
  induction es generalizing o with
  | nil =>
    simp only [List.map_nil, String.join_nil, String.utf8ByteSize_empty] at below
    omega
  | cons e es ih =>
    have start := tiles.1
    have stop : e.stop = o + e.text.utf8ByteSize := by rw [Extent.stop, start]
    by_cases inside : b < e.stop
    · exact ⟨e, List.mem_cons_self, by omega, inside⟩
    · rw [List.map_cons, String.join_cons, String.utf8ByteSize_append] at below
      obtain ⟨d, member, holds⟩ := ih tiles.2 (by omega) (by omega)
      exact ⟨d, List.mem_cons_of_mem _ member, holds⟩

/-- The bytes of a stretch are those of its text. -/
theorem extract_eq (tiles : Contiguous front.utf8ByteSize es) (member : e ∈ es) :
    (front ++ String.join (es.map Extent.text)).toByteArray.extract e.offset e.stop =
      e.text.toByteArray := by
  obtain ⟨before, after, rfl⟩ := List.append_of_mem member
  rw [Extent.stop, tiles.offset, ← String.utf8ByteSize_append, List.map_append, List.map_cons,
    String.join_append, String.join_cons, ← String.append_assoc]
  exact extract_middle ..

end Contiguous

/-- The lexemes are pieces of the text, without gaps and overlaps. Only a byte order mark at the
start of the text belongs to none of them. -/
structure Tiles (text : String) (xs : List Lexeme) : Prop where
  nonempty : ∀ x ∈ xs, x.text ≠ ""
  text_eq : text = leadingMark text ++ String.join (xs.map Lexeme.text)
  offset : ∀ before x after, xs = before ++ x :: after →
    x.position.offset =
      (leadingMark text).utf8ByteSize + (before.map (·.text.utf8ByteSize)).sum

namespace Piece

theorem offset_advance (p : Position) (piece : Piece) :
    (piece.advance p).offset = p.offset + byteLength piece.text := by
  unfold advance
  split
  · rfl
  · exact p.offset_after piece.text

/-- Located pieces lie one after the other. -/
theorem contiguous_locate (p : Position) (pieces : List Piece) :
    Contiguous p.offset ((locate p pieces).map Lexeme.extent) := by
  induction pieces generalizing p with
  | nil => trivial
  | cons piece pieces ih =>
    have stop : (piece.advance p).offset = p.offset + (String.ofList piece.text).utf8ByteSize := by
      rw [offset_advance, utf8ByteSize_ofList]
    have rest := ih (piece.advance p)
    rw [stop] at rest
    exact ⟨rfl, rest⟩

theorem join_locate (p : Position) (pieces : List Piece) :
    String.join ((locate p pieces).map Lexeme.text) = String.ofList (pieces.flatMap text) := by
  induction pieces generalizing p with
  | nil => rfl
  | cons piece pieces ih =>
    rw [locate, List.map_cons, String.join_cons, ih, List.flatMap_cons, String.ofList_append]

theorem nonempty_locate (member : x ∈ locate p pieces) : x.text ≠ "" := by
  induction pieces generalizing p with
  | nil => contradiction
  | cons piece pieces ih =>
    rcases List.mem_cons.mp member with rfl | member
    · exact fun empty => List.cons_ne_nil _ _ (String.ofList_eq_empty_iff.mp empty)
    · exact ih member

end Piece

namespace Lexing

theorem offset_content (text : String) :
    (content text.toList).1.offset = (leadingMark text).utf8ByteSize := by
  unfold leadingMark
  cases text.toList with
  | nil => rfl
  | cons c r =>
    simp only [content, List.head?_cons, Option.some.injEq]
    split
    · next mark => rw [mark, String.utf8ByteSize_singleton]; rfl
    · rfl

theorem leadingMark_append (text : String) :
    leadingMark text ++ String.ofList (content text.toList).2 = text := by
  rw [← String.toList_inj, String.toList_append, String.toList_ofList]
  unfold leadingMark
  cases text.toList with
  | nil => rfl
  | cons c r =>
    simp only [content, List.head?_cons, Option.some.injEq]
    split
    · next mark => simp [mark]
    · rfl

end Lexing

theorem contiguous_of_lex (lexed : lex text = .ok xs) :
    Contiguous (leadingMark text).utf8ByteSize (xs.map Lexeme.extent) := by
  obtain ⟨pieces, _, _, rfl⟩ := lex_eq_ok.mp lexed
  rw [← Lexing.offset_content]
  exact Piece.contiguous_locate _ pieces

/-- The lexemes of a text tile it. -/
theorem tiles_of_lex (lexed : lex text = .ok xs) : Tiles text xs where
  nonempty x member := by
    obtain ⟨pieces, _, _, rfl⟩ := lex_eq_ok.mp lexed
    exact Piece.nonempty_locate member
  text_eq := by
    obtain ⟨pieces, _, texts, rfl⟩ := lex_eq_ok.mp lexed
    rw [Piece.join_locate, ← texts, Lexing.leadingMark_append]
  offset before x after split := by
    have tiles := contiguous_of_lex lexed
    rw [split, List.map_append, List.map_cons] at tiles
    have start := tiles.offset
    rwa [List.map_map, utf8ByteSize_join, List.map_map] at start

end Highlight
