import Highlight.Proofs.Classification.Coverage
import Highlight.Proofs.Lexeme.Composition
import Highlight.Proofs.Lexeme.Spacing
import Highlight.Proofs.Source.Tiling

/-! The roles of a text do not depend on the space between its lexemes. -/
namespace Highlight

variable {text other : String} {p q : Position} {ps qs : List Piece} {rs : List Role}

theorem Piece.known_of_ofMark? {piece : Piece}
    (found : Punctuation.ofMark? (String.ofList piece.text) = some m) : piece.Known := by
  intro
  have spelled := congrArg String.toList (Punctuation.spelling_of_ofMark? found)
  rw [String.toList_ofList] at spelled
  by_cases single : m = .slash
  · rw [single] at spelled
    exact .inr (List.cons_eq_cons.mp spelled).1.symm
  · obtain ⟨c, parts, lone⟩ := isLoneMark_spelling single
    rw [parts] at spelled
    exact .inl ((List.cons_eq_cons.mp spelled).1 ▸ lone)

theorem Piece.known_of_recognized (recognized : ∀ x ∈ locate p ps, Recognized x) :
    ∀ piece ∈ ps, piece.Known := by
  induction ps generalizing p with
  | nil => exact nofun
  | cons piece ps ih =>
    obtain ⟨here, others⟩ := List.forall_mem_cons.mp recognized
    refine List.forall_mem_cons.mpr ⟨fun mark => ?_, ih others⟩
    obtain ⟨m, found⟩ := here (by rw [mark]; rfl)
    exact known_of_ofMark? found mark

def Piece.lexeme (p : Position) (piece : Piece) : Lexeme :=
  ⟨piece.form.kind, String.ofList piece.text, p⟩

/-- Moved to one place, the significant lexemes are the significant pieces. -/
theorem map_significant_locate (f : Position → Position) (constant : ∀ p, f p = q)
    (p : Position) (ps : List Piece) :
    (significant (Piece.locate p ps)).map (Lexeme.relocate f) =
      (Piece.significant ps).map (Piece.lexeme q) := by
  induction ps generalizing p with
  | nil => rfl
  | cons piece ps ih =>
    have split : Piece.locate p (piece :: ps) =
        piece.lexeme p :: Piece.locate (piece.advance p) ps := rfl
    rw [split, Piece.significant_cons]
    cases trivia : piece.isTrivia with
    | true =>
      have trivia : (piece.lexeme p).kind.isTrivia = true := trivia
      rw [significant_cons_trivia trivia, ih]
      rfl
    | false =>
      have kept : (piece.lexeme p).kind.isTrivia = false := trivia
      rw [significant_cons kept, List.map_cons, ih, Lexeme.relocate, constant]
      rfl

theorem texts_significant_locate (p : Position) (ps : List Piece) :
    (significant (Piece.locate p ps)).map Lexeme.text =
      (Piece.significant ps).map fun piece => String.ofList piece.text := by
  have moved := map_significant_locate (fun _ => p) (fun _ => rfl) p ps
  have texts := congrArg (List.map Lexeme.text) moved
  rw [List.map_map, List.map_map] at texts
  exact texts

/-- The pieces that a text is cut into, and the roles of its tokens. -/
structure Reading (text : String) (ps : List Piece) (rs : List Role) : Prop where
  chain : Piece.Chain true ps []
  content : (Lexing.content text.toList).2 = ps.flatMap Piece.text
  classified : ∃ ts, classify (Piece.locate (Lexing.content text.toList).1 ps) = .ok ts ∧
    ts.map Token.role = rs

/-- A text with roles is cut into pieces to its end. -/
theorem exists_reading (found : roles text = .ok rs) : ∃ ps, Reading text ps rs := by
  unfold roles at found
  cases read : tokens text with
  | error e =>
    rw [read] at found
    contradiction
  | ok ts =>
    rw [read] at found
    obtain ⟨xs, lexed, classified⟩ := tokens_eq_ok read
    obtain ⟨ps, chain, content, rfl⟩ := lex_eq_ok.mp lexed
    exact ⟨ps, chain, content, ts, classified, Except.ok.inj found⟩

namespace Reading

theorem roles (reading : Reading text ps rs) : Highlight.roles text = .ok rs := by
  obtain ⟨ts, classified, rfl⟩ := reading.classified
  have lexed := lex_eq_ok.mpr ⟨ps, reading.chain, reading.content, rfl⟩
  simp only [Highlight.roles, tokens, lexed, classified]
  rfl

theorem known (reading : Reading text ps rs) : ∀ piece ∈ ps, piece.Known := by
  obtain ⟨ts, classified, _⟩ := reading.classified
  obtain ⟨s, read, _⟩ := classify_eq_ok.mp classified
  exact Piece.known_of_recognized (recognized_of_read read)

theorem texts (reading : Reading text ps rs) :
    rs.map Role.text = (Piece.significant ps).map fun piece => String.ofList piece.text := by
  obtain ⟨ts, classified, rfl⟩ := reading.classified
  obtain ⟨s, read, _, rfl⟩ := classify_eq_ok.mp classified
  have extents := congrArg (List.map Extent.text) (extents_of_covers (State.read_covered read))
  rw [List.map_map, List.map_map] at extents
  rw [List.map_map]
  exact extents.trans (texts_significant_locate _ ps)

/-- Other trivia leaves the roles as they are. -/
theorem recut (reading : Reading text ps rs)
    (recut : Piece.Recuts true ps (Lexing.content other.toList).2) :
    Highlight.roles other = .ok rs := by
  obtain ⟨ts, classified, rfl⟩ := reading.classified
  obtain ⟨qs, chain, content, same⟩ := recut
  -- Moved to one place, the lexemes of both texts are the same but for trivia.
  have moved : classify ((significant (Piece.locate (Lexing.content other.toList).1 qs)).map
      (Lexeme.relocate fun _ => .start 0)) = .ok (ts.map (Token.relocate fun _ => .start 0)) := by
    rw [map_significant_locate _ (fun _ => rfl), same,
      ← map_significant_locate (fun _ => .start 0) (fun _ => rfl), relocate_classify,
      classify_significant, classified]
    rfl
  obtain ⟨us, reclassified, sameRoles⟩ := roles_of_relocate moved
  rw [List.map_map] at sameRoles
  exact roles ⟨chain, content.symm, us, reclassified, sameRoles⟩

end Reading

theorem Piece.Recuts.head? (recut : Recuts lineStart ps cs) :
    cs.head? ≠ some Lexing.byteOrderMark := by
  obtain ⟨qs, chain, rfl, _⟩ := recut
  have noMark := chain.head? nofun
  rwa [List.append_nil] at noMark

/-- The texts of the tokens, with single spaces between them, have the same tokens. -/
theorem roles_intercalate (found : roles text = .ok rs) :
    roles (" ".intercalate (rs.map Role.text)) = .ok rs := by
  obtain ⟨ps, reading⟩ := exists_reading found
  have joined : (" ".intercalate (rs.map Role.text)).toList =
      [' '].intercalate ((Piece.significant ps).map Piece.text) := by
    rw [reading.texts, String.toList_intercalate, List.map_map]
    simp [Function.comp_def]
  have recut : Piece.Recuts true (Piece.significant ps)
      ([' '].intercalate ((Piece.significant ps).map Piece.text)) := by
    refine Piece.recuts_intercalate ?_ ?_ ?_
    · intro piece member
      exact reading.chain.exists_cuts (List.mem_of_mem_filter member)
    · intro piece member
      exact reading.known piece (List.mem_of_mem_filter member)
    · intro piece member
      simpa using (List.mem_filter.mp member).2
  refine reading.recut ?_
  rw [joined, Lexing.content_of_head? recut.head?]
  exact recut.of_significant

/-- A number that ends before a point, and a comment between two lexemes. -/
theorem roles_intercalate_number :
    ∃ rs, roles "x=1./**/y;" = .ok rs ∧ " ".intercalate (rs.map Role.text) = "x = 1 . y ;" ∧
      roles "x = 1 . y ;" = .ok rs := by
  have found : roles "x=1./**/y;" = .ok [.identifier "x", .punctuation .equals, .literal "1",
      .punctuation .accessor, .identifier "y", .punctuation .semicolon] := by
    decide +kernel
  exact ⟨_, found, by decide, roles_intercalate found⟩

/-- A space, a tab or a line feed between any two lexemes, before the first or behind the last, does
not change the tokens. -/
theorem roles_insert (lexed : lex text = .ok (before ++ after)) (found : roles text = .ok rs)
    (spacing : isBlank w = true ∨ w = '\n') :
    roles (leadingMark text ++ String.join (before.map Lexeme.text) ++ String.singleton w ++
      String.join (after.map Lexeme.text)) = .ok rs := by
  obtain ⟨ps, reading⟩ := exists_reading found
  have located := lex_eq_ok.mpr ⟨ps, reading.chain, reading.content, rfl⟩
  obtain ⟨front, back, rfl, rfl, rfl⟩ :=
    Piece.exists_split_locate (Except.ok.inj (located.symm.trans lexed))
  have spacing : isSpacing w = true := by
    simpa [isSpacing] using spacing
  have recut := reading.chain.space_between reading.known spacing
  refine reading.recut ?_
  rw [Piece.join_locate, Piece.join_locate]
  simp only [String.toList_append, String.toList_singleton, String.toList_ofList, List.append_assoc,
    List.singleton_append]
  rwa [Lexing.content_leadingMark text recut.head?]

/-- A line feed behind a lone carriage return makes one line break of both. -/
theorem roles_insert_lineFeed :
    ∃ rs, roles "#a\r;" = .ok rs ∧ roles "#a\r\n;" = .ok rs := by
  have lexed : lex "#a\r;" = .ok ([⟨.directive, "#a", ⟨1, 1, 0⟩⟩, ⟨.newline, "\r", ⟨1, 3, 2⟩⟩] ++
      [⟨.punctuation, ";", ⟨2, 1, 3⟩⟩]) := by decide +kernel
  have found : roles "#a\r;" = .ok [.punctuation .semicolon] := by decide +kernel
  have inserted := roles_insert lexed found (.inr rfl)
  have whole : leadingMark "#a\r;" ++ String.join ["#a", "\r"] ++ String.singleton '\n' ++
      String.join [";"] = "#a\r\n;" := by decide
  exact ⟨_, found, whole ▸ inserted⟩

end Highlight
