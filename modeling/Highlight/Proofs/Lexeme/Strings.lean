import Highlight.Proofs.Lexeme.Composition

/-! Strings as they are written: sigils, quotes, and what stands behind them up to a closing. In
front of anything but another quote, such a text is read as one string. -/
namespace Highlight

variable {sigils body text rest : List Char}

def IsString (text rest : List Char) : Prop :=
  ∃ opening c tail, text = c :: tail ∧ Opening.of? (c :: (tail ++ rest)) = some opening ∧
    opening.length (tail ++ rest) = .ok tail.length

/-- Behind the sigils and the first quote stand the other characters of the opening and the body. -/
theorem isString_of_made {opening : Opening} (quotes : List Char)
    (all : ∀ c ∈ sigils, isStringSigil c = true)
    (made : Opening.Made sigils (runLength (· = '"') (quotes ++ (body ++ rest)) + 1) opening)
    (ahead : opening.ahead = sigils.length + quotes.length)
    (reads : opening.style.Reads (body ++ rest) body.length) :
    IsString (sigils ++ '"' :: (quotes ++ body)) rest := by
  have found := (Opening.of?_written all).mpr made
  obtain ⟨c, tail, split⟩ : ∃ c tail, sigils ++ '"' :: (quotes ++ body) = c :: tail :=
    List.exists_cons_of_ne_nil (List.append_ne_nil_of_right_ne_nil _ (List.cons_ne_nil _ _))
  have whole : sigils ++ '"' :: (quotes ++ (body ++ rest)) = c :: (tail ++ rest) := by
    have joined := congrArg (· ++ rest) split
    simpa only [List.append_assoc, List.cons_append] using joined
  have behind : tail.drop opening.ahead = body := by
    have front : sigils ++ '"' :: (quotes ++ body) = (sigils ++ '"' :: quotes) ++ body := by simp
    rw [← List.drop_succ_cons (a := c), ← split, front]
    exact List.drop_left' (by simp [ahead, Nat.add_assoc])
  have size := congrArg List.length split
  simp only [List.length_append, List.length_cons] at size
  refine ⟨opening, c, tail, split, whole ▸ found, Opening.length_append.mpr ⟨by omega, ?_⟩⟩
  rwa [behind]

theorem isString_of_sigils {style : StringStyle} (sigils : List Char)
    (all : ∀ c ∈ sigils, isStringSigil c = true)
    (made : Opening.Made sigils (runLength (· = '"') (body ++ rest) + 1) ⟨style, sigils.length⟩)
    (reads : style.Reads (body ++ rest) body.length) : IsString (sigils ++ '"' :: body) rest :=
  isString_of_made [] all made rfl reads

/-- Behind the quote that opens a string on one line, another quote closes it. -/
theorem runLength_quotes_lt (edge : rest.head? ≠ some '"')
    (single : body.head? = some '"' → body = ['"']) :
    runLength (· = '"') (body ++ rest) + 1 < 3 := by
  have stop : runLength (· = '"') rest = 0 := by
    refine runLength_eq_zero.mpr ?_
    cases rest with
    | nil => rfl
    | cons c r => simpa using edge
  cases body with
  | nil => rw [List.nil_append, stop]; decide
  | cons c body =>
    rw [List.cons_append, runLength_cons]
    split
    · next quote =>
      obtain rfl := of_decide_eq_true quote
      obtain rfl : body = [] := (List.cons_eq_cons.mp (single rfl)).2
      rw [List.nil_append, stop]
      decide
    · decide

theorem Delimited.single (delimited : Delimited d body) (head : body.head? = some d) :
    body = [d] := by
  cases delimited with
  | close => rfl
  | escape other => exact absurd (Option.some.inj head).symm other
  | pass _ other => exact absurd (Option.some.inj head) other

theorem isString_plain (closes : Delimited '"' body) (edge : rest.head? ≠ some '"') :
    IsString ('"' :: body) rest :=
  isString_of_sigils [] nofun
    (.plain rfl rfl (Nat.succ_pos _) (runLength_quotes_lt edge closes.single))
    (delimitedLength?_append.mpr closes)

theorem isString_verbatim (closes : Doubled body) (edge : rest.head? ≠ some '"') :
    IsString ('@' :: '"' :: body) rest :=
  isString_of_sigils ['@'] (by simp [isStringSigil]) (.verbatim rfl rfl (Nat.succ_pos _))
    (doubledLength?_append.mpr ⟨closes, edge⟩)

theorem isString_interpolated (closes : Interpolation.Closes false rest 0 body)
    (edge : rest.head? ≠ some '"') (single : body.head? = some '"' → body = ['"']) :
    IsString ('$' :: '"' :: body) rest :=
  isString_of_sigils ['$'] (by simp [isStringSigil])
    (.interpolated rfl rfl (Nat.succ_pos _) (runLength_quotes_lt edge single))
    (interpolatedLength_append.mpr closes)

theorem isString_verbatimInterpolated (closes : Interpolation.Closes true rest 0 body)
    (known : sigils = ['$', '@'] ∨ sigils = ['@', '$']) :
    IsString (sigils ++ '"' :: body) rest := by
  refine isString_of_sigils sigils ?_ (.verbatimInterpolated ?_ ?_ (Nat.succ_pos _))
    (interpolatedLength_append.mpr closes)
  all_goals rcases known with rfl | rfl <;> simp [isStringSigil]

theorem RawTail.nonempty (tail : RawTail quotes 0 body) (many : 0 < quotes) : body ≠ [] := by
  rintro rfl
  cases tail with
  | done enough => omega

theorem isString_raw (dollars : Nat) (many : 3 ≤ quotes) (closes : RawTail quotes 0 body)
    (apart : body.head? ≠ some '"') (edge : rest.head? ≠ some '"') :
    IsString (List.replicate dollars '$' ++ (List.replicate quotes '"' ++ body)) rest := by
  obtain ⟨more, rfl⟩ : ∃ more, quotes = more + 1 := ⟨quotes - 1, by omega⟩
  have run : runLength (· = '"') (List.replicate more '"' ++ (body ++ rest)) = more := by
    have boundary : ∀ c ∈ (body ++ rest).head?, decide (c = '"') = false := by
      rw [List.head?_append_of_ne_nil _ (closes.nonempty (Nat.succ_pos more))]
      intro c head
      exact decide_eq_false fun quote => apart (quote ▸ head)
    rw [runLength_append (by simp) boundary, List.length_replicate]
  have noAt : (List.replicate dollars '$').count '@' = 0 := by simp [List.count_replicate]
  have made := Opening.Made.raw noAt many
  rw [← run] at made
  refine isString_of_made (List.replicate more '"') (by simp [isStringSigil]) made ?_ ?_
  · rw [run, List.length_replicate, List.length_replicate, Nat.add_succ_sub_one]
  · rw [run]
    exact rawLength?_append.mpr ⟨closes, edge⟩

/-- Pieces that are cut from their own text are its lexemes, with a byte order mark or without. -/
theorem lex_of_chain {ps : List Piece} (chain : Piece.Chain true ps []) (text : String) :
    lex (leadingMark text ++ String.ofList (ps.flatMap Piece.text)) =
      .ok (Piece.locate (Lexing.content text.toList).1 ps) := by
  have noMark := chain.head? nofun
  rw [List.append_nil] at noMark
  have content := Lexing.content_leadingMark text noMark
  refine lex_eq_ok.mpr ⟨ps, chain, ?_, ?_⟩
  · rw [String.toList_append, String.toList_ofList, content]
  · rw [String.toList_append, String.toList_ofList, content]

section

variable {piece : Piece}

theorem Piece.Cuts.head?_ne (cuts : piece.Cuts lineStart rest) (r : List Char) :
    (piece.text ++ r).head? ≠ some Lexing.byteOrderMark := by
  intro mark
  have form := cuts.form
  rw [Option.some.inj mark, of?_byteOrderMark] at form
  contradiction

/-- A text that is one piece has one lexeme. -/
theorem lex_of_cuts (cuts : piece.Cuts true []) :
    lex (String.ofList piece.text) =
      .ok [⟨piece.form.kind, String.ofList piece.text, .start 0⟩] := by
  have chain : Piece.Chain true [piece] [] := ⟨cuts, trivial⟩
  have lexed := lex_of_chain chain ""
  rwa [List.flatMap_singleton, show leadingMark "" = "" from rfl, String.empty_append] at lexed

/-- A text that starts with a piece has it as its first lexeme. -/
theorem exists_lex_of_cuts {r : String} (cuts : piece.Cuts true r.toList)
    (lexed : lex (String.ofList piece.text ++ r) = .ok xs) :
    ∃ ys, xs = ⟨piece.form.kind, String.ofList piece.text, .start 0⟩ :: ys := by
  have lexemes := lexemes_of_lex lexed
  unfold Lexing.of at lexemes
  rw [String.toList_append, String.toList_ofList,
    Lexing.content_of_head? (cuts.head?_ne r.toList)] at lexemes
  dsimp only at lexemes
  rw [Segmentation.of_cuts cuts] at lexemes
  exact ⟨_, lexemes.symm⟩

end

/-- A string is a piece of its text. -/
theorem IsString.exists_cuts (string : IsString text rest) :
    ∃ piece : Piece, piece.text = text ∧ piece.form.kind = .literal ∧ piece.Cuts true rest := by
  obtain ⟨opening, c, tail, rfl, found, length⟩ := string
  exact ⟨⟨.string opening, c, tail⟩, rfl, rfl, Form.of?_eq_some.mpr (.string found), length⟩

end Highlight
