import Highlight.Proofs.Classification.Coverage
import Highlight.Proofs.Lexeme.Tiling
import Highlight.Source

/-! The tokens of a text stand at their own bytes, and only trivia stands between them. -/
namespace Highlight

def Token.extent (t : Token) : Extent :=
  ⟨t.position.offset, t.role.text⟩

theorem Token.Covers.extent (covers : Token.Covers t x) : t.extent = x.extent := by
  rw [Token.extent, covers.position, covers.text, Lexeme.extent]

theorem extents_of_covers (covered : List.Forall₂ Token.Covers ts xs) :
    ts.map Token.extent = xs.map Lexeme.extent := by
  induction covered with
  | nil => rfl
  | cons covers _ ih => rw [List.map_cons, List.map_cons, covers.extent, ih]

/-- The tokens among the lexemes of a text. Behind the byte order mark, the bytes of no token are
the bytes of trivia. -/
structure TokensTile (text : String) (xs : List Lexeme) (ts : List Token) : Prop where
  bytes : ∀ t ∈ ts,
    text.toByteArray.extract t.position.offset (t.position.offset + t.role.text.utf8ByteSize) =
      t.role.text.toByteArray
  nonempty : ∀ t ∈ ts, t.extent.offset < t.extent.stop
  increasing : ts.Pairwise fun t u => t.extent.stop ≤ u.extent.offset
  trivia : ∀ b, (leadingMark text).utf8ByteSize ≤ b → b < text.utf8ByteSize →
    ((¬∃ t ∈ ts, t.extent.Holds b) ↔ ∃ x ∈ xs, x.kind.isTrivia ∧ x.extent.Holds b)

theorem mem_significant : x ∈ significant xs ↔ x ∈ xs ∧ x.kind.isTrivia = false := by
  simp [significant]

/-- Of stretches that lie apart only one holds a byte. -/
theorem eq_of_holds {xs : List Lexeme}
    (apart : xs.Pairwise fun x y => x.extent.stop ≤ y.extent.offset) (first : x ∈ xs)
    (second : y ∈ xs) (holdsFirst : x.extent.Holds b) (holdsSecond : y.extent.Holds b) :
    x = y := by
  induction apart with
  | nil => contradiction
  | @cons z xs above _ ih =>
    unfold Extent.Holds at holdsFirst holdsSecond
    rcases List.mem_cons.mp first with rfl | inFirst <;>
      rcases List.mem_cons.mp second with rfl | inSecond
    · rfl
    · have := above y inSecond
      omega
    · have := above x inFirst
      omega
    · exact ih inFirst inSecond

section

variable {text : String} {xs : List Lexeme} {ts : List Token}

/-- A token holds the bytes of a lexeme that is no trivia. -/
theorem exists_lexeme (covered : List.Forall₂ Token.Covers ts (significant xs))
    (member : t ∈ ts) : ∃ x ∈ xs, x.kind.isTrivia = false ∧ x.extent = t.extent := by
  have inExtents : t.extent ∈ (significant xs).map Lexeme.extent := by
    rw [← extents_of_covers covered]
    exact List.mem_map_of_mem member
  obtain ⟨x, kept, same⟩ := List.mem_map.mp inExtents
  obtain ⟨inText, kind⟩ := mem_significant.mp kept
  exact ⟨x, inText, kind, same⟩

theorem exists_token (covered : List.Forall₂ Token.Covers ts (significant xs)) (member : x ∈ xs)
    (kept : x.kind.isTrivia = false) : ∃ t ∈ ts, t.extent = x.extent := by
  have inExtents : x.extent ∈ ts.map Token.extent := by
    rw [extents_of_covers covered]
    exact List.mem_map_of_mem (mem_significant.mpr ⟨member, kept⟩)
  exact List.mem_map.mp inExtents

/-- Tokens that cover the significant lexemes tile the text with the trivia. -/
theorem tokensTile_of_covers (lexed : lex text = .ok xs)
    (covered : List.Forall₂ Token.Covers ts (significant xs)) : TokensTile text xs ts := by
  have tiles := tiles_of_lex lexed
  have contiguous := contiguous_of_lex lexed
  have apart : xs.Pairwise fun x y => x.extent.stop ≤ y.extent.offset :=
    List.pairwise_map.mp contiguous.pairwise
  have texts : (xs.map Lexeme.extent).map Extent.text = xs.map Lexeme.text := List.map_map
  have whole : text = leadingMark text ++ String.join ((xs.map Lexeme.extent).map Extent.text) := by
    rw [texts, ← tiles.text_eq]
  refine ⟨?_, ?_, ?_, ?_⟩
  · intro t member
    obtain ⟨x, inText, _, same⟩ := exists_lexeme covered member
    have bytes := contiguous.extract_eq (List.mem_map_of_mem inText)
    rw [← whole, same] at bytes
    exact bytes
  · intro t member
    obtain ⟨x, inText, _, same⟩ := exists_lexeme covered member
    have size : x.text.utf8ByteSize ≠ 0 := fun zero =>
      tiles.nonempty x inText (String.utf8ByteSize_eq_zero_iff.mp zero)
    rw [← same]
    exact Nat.lt_add_of_pos_right (Nat.pos_of_ne_zero size)
  · rw [← List.pairwise_map (R := fun d e => Extent.stop d ≤ Extent.offset e),
      extents_of_covers covered, List.pairwise_map]
    exact apart.sublist List.filter_sublist
  · intro b above below
    constructor
    · intro outside
      obtain ⟨e, inExtents, holds⟩ := contiguous.exists_holds above (by
        rw [whole, String.utf8ByteSize_append] at below
        exact below)
      obtain ⟨x, inText, rfl⟩ := List.mem_map.mp inExtents
      refine ⟨x, inText, ?_, holds⟩
      by_contra kept
      obtain ⟨t, member, same⟩ := exists_token covered inText (by simpa using kept)
      exact outside ⟨t, member, same ▸ holds⟩
    · rintro ⟨x, inText, trivia, holds⟩ ⟨t, member, inside⟩
      obtain ⟨y, alsoInText, kept, same⟩ := exists_lexeme covered member
      obtain rfl := eq_of_holds apart inText alsoInText holds (same ▸ inside)
      rw [trivia] at kept
      contradiction

theorem tokens_eq_ok (found : tokens text = .ok ts) :
    ∃ xs, lex text = .ok xs ∧ classify xs = .ok ts := by
  unfold tokens at found
  cases lexed : lex text with
  | error e => rw [lexed] at found; contradiction
  | ok xs =>
    simp only [lexed] at found
    cases classified : classify xs with
    | error e => rw [classified] at found; contradiction
    | ok us =>
      rw [classified] at found
      exact ⟨xs, rfl, classified.trans (congrArg _ (Except.ok.inj found))⟩

end

/-- Lexemes leave out nothing but a byte order mark, and tokens nothing but trivia besides. -/
theorem lexemes_and_tokens_tile (text : String) :
    (∀ xs, lex text = .ok xs → Tiles text xs) ∧
      ∀ ts, tokens text = .ok ts → ∃ xs, lex text = .ok xs ∧ TokensTile text xs ts := by
  refine ⟨fun xs lexed => tiles_of_lex lexed, ?_⟩
  intro ts found
  obtain ⟨xs, lexed, classified⟩ := tokens_eq_ok found
  obtain ⟨s, read, _, rfl⟩ := classify_eq_ok.mp classified
  exact ⟨xs, lexed, tokensTile_of_covers lexed (State.read_covered read)⟩

/-- A byte order mark, a letter of two bytes and a line break of two characters. -/
theorem tiles_behind_byteOrderMark :
    ∃ text xs ts, text = "\ufeffé //é\r\n;" ∧ lex text = .ok xs ∧ tokens text = .ok ts ∧
      Tiles text xs ∧ ∃ ys, lex text = .ok ys ∧ TokensTile text ys ts := by
  have lexed : lex "\ufeffé //é\r\n;" = .ok (Lexing.of "\ufeffé //é\r\n;").lexemes := by
    decide +kernel
  have found : tokens "\ufeffé //é\r\n;" =
      .ok [⟨.identifier "é", ⟨1, 1, 3⟩⟩, ⟨.punctuation .semicolon, ⟨2, 1, 12⟩⟩] := by
    decide +kernel
  exact ⟨_, _, _, rfl, lexed, found, (lexemes_and_tokens_tile _).1 _ lexed,
    (lexemes_and_tokens_tile _).2 _ found⟩

end Highlight
