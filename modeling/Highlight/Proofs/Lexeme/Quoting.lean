import Highlight.Proofs.Lexeme.Strings

/-! Contents written down as literals. Each form of a literal has a way to write any content, and
what is written is one lexeme, whatever stands behind it. -/
namespace Highlight

/-- The ways to write a content down: with escapes in quotes or apostrophes, with doubled quotes
behind an `@`, or as it is between runs of quotes. -/
inductive Quoting
  | string
  | character
  | verbatim
  | raw (dollars quotes : Nat)
deriving DecidableEq, Repr

namespace Quoting

def escape (delimiter c : Char) : List Char :=
  if c = '\n' then ['\\', 'n']
  else if c = '\r' then ['\\', 'r']
  else if c = '\\' ∨ c = delimiter then ['\\', c]
  else [c]

def double (c : Char) : List Char :=
  if c = '"' then ['"', '"'] else [c]

def write (s : List Char) : Quoting → List Char
  | .string => '"' :: (s.flatMap (escape '"') ++ ['"'])
  | .character => '\'' :: (s.flatMap (escape '\'') ++ ['\''])
  | .verbatim => '@' :: '"' :: (s.flatMap double ++ ['"'])
  | .raw dollars quotes =>
    List.replicate dollars '$' ++
      (List.replicate quotes '"' ++ (s ++ List.replicate quotes '"'))

/-- Only between runs of quotes not every content can stand. It may end in quotes, which then belong
to the closing run. -/
def Fits (s : List Char) : Quoting → Prop
  | .string | .character | .verbatim => True
  | .raw _ quotes =>
    3 ≤ quotes ∧ s ≠ [] ∧ s.head? ≠ some '"' ∧
      ∀ run, List.replicate run '"' <:+: s → run < quotes

def quote (q : Quoting) (s : String) : String :=
  String.ofList (q.write s.toList)

variable {delimiter : Char} {s rest : List Char}

/-- The delimiter behind an escaped content is the first that no backslash escapes. -/
theorem delimited_escape (other : delimiter ≠ '\\') (solid : isLineBreak delimiter = false)
    (s : List Char) : Delimited delimiter (s.flatMap (escape delimiter) ++ [delimiter]) := by
  induction s with
  | nil => exact .close solid
  | cons c s ih =>
    rw [List.flatMap_cons, List.append_assoc, escape]
    split
    · exact .escape other rfl ih
    · next noFeed =>
      split
      · exact .escape other rfl ih
      · next noReturn =>
        have inLine : isLineBreak c = false := by simp [isLineBreak, noFeed, noReturn]
        split
        · exact .escape other inLine ih
        · next free =>
          rw [not_or] at free
          exact .pass inLine free.2 free.1 ih

theorem doubled_double (s : List Char) : Doubled (s.flatMap double ++ ['"']) := by
  induction s with
  | nil => exact .close
  | cons c s ih =>
    rw [List.flatMap_cons, List.append_assoc, double]
    split
    · exact .pair ih
    · next other => exact .pass other ih

theorem rawTail_replicate (enough : quotes ≤ run + closing) :
    RawTail quotes run (List.replicate closing '"') := by
  induction closing generalizing run with
  | zero => exact .done enough
  | succ closing ih => exact .quote (ih (by omega))

/-- The runs of the content, the first of them with `run` quotes in front, are too short to close
it. -/
theorem rawTail_append
    (short : ∀ n, List.replicate n '"' <:+: List.replicate run '"' ++ s → n < quotes) :
    RawTail quotes run (s ++ List.replicate quotes '"') := by
  induction s generalizing run with
  | nil => exact rawTail_replicate (Nat.le_add_left ..)
  | cons c s ih =>
    by_cases more : c = '"'
    · subst more
      refine .quote (ih fun n inside => short n ?_)
      rwa [List.replicate_succ', List.append_assoc] at inside
    · refine .pass more (short run (List.prefix_append ..).isInfix) (ih fun n inside => ?_)
      have behind : s <:+ List.replicate run '"' ++ c :: s :=
        (List.suffix_cons c s).trans (List.suffix_append ..)
      exact short n (inside.trans behind.isInfix)

/-- A quoted content is cut as one literal. -/
theorem exists_cuts {q : Quoting} (fits : q.Fits s) (edge : rest.head? ≠ some '"') :
    ∃ piece : Piece, piece.text = q.write s ∧ piece.form.kind = .literal ∧
      piece.Cuts true rest := by
  cases q with
  | string => exact (isString_plain (delimited_escape (by decide) rfl s) edge).exists_cuts
  | character =>
    exact ⟨⟨.character, '\'', _⟩, rfl, rfl,
      Piece.cuts_iff.mpr ⟨.character rfl, .character (delimited_escape (by decide) rfl s)⟩⟩
  | verbatim => exact (isString_verbatim (doubled_double s) edge).exists_cuts
  | raw dollars quotes =>
    obtain ⟨many, nonempty, apart, short⟩ := fits
    refine (isString_raw dollars many (rawTail_append short) ?_ edge).exists_cuts
    rwa [List.head?_append_of_ne_nil _ nonempty]

end Quoting

/-- Any content, however it is quoted, is one lexeme, alone and in front of anything but a quote. -/
theorem lex_quote {q : Quoting} {s : String} (fits : q.Fits s.toList) :
    lex (q.quote s) = .ok [⟨.literal, q.quote s, .start 0⟩] ∧
      ∀ r xs, r.toList.head? ≠ some '"' → lex (q.quote s ++ r) = .ok xs →
        ∃ ys, xs = ⟨.literal, q.quote s, .start 0⟩ :: ys := by
  constructor
  · have ends : ([] : List Char).head? ≠ some '"' := nofun
    obtain ⟨piece, text, kind, cuts⟩ := Quoting.exists_cuts fits ends
    have lexed := lex_of_cuts cuts
    rwa [kind, text] at lexed
  · intro r xs edge lexed
    obtain ⟨piece, text, kind, cuts⟩ := Quoting.exists_cuts fits edge
    rw [Quoting.quote, ← text] at lexed
    have first := exists_lex_of_cuts cuts lexed
    rwa [kind, text] at first

/-- Three quotes and a backslash as the end of a content. -/
theorem lex_quote_raw :
    Quoting.quote (.raw 2 4) "x\"\"\"\\" = "$$\"\"\"\"x\"\"\"\\\"\"\"\"" ∧
      lex "$$\"\"\"\"x\"\"\"\\\"\"\"\"" =
        .ok [⟨.literal, "$$\"\"\"\"x\"\"\"\\\"\"\"\"", ⟨1, 1, 0⟩⟩] ∧
      ∃ ys, lex "$$\"\"\"\"x\"\"\"\\\"\"\"\" \\" =
        .ok (⟨.literal, "$$\"\"\"\"x\"\"\"\\\"\"\"\"", ⟨1, 1, 0⟩⟩ :: ys) := by
  have written : Quoting.quote (.raw 2 4) "x\"\"\"\\" = "$$\"\"\"\"x\"\"\"\\\"\"\"\"" := by
    decide
  have fits : (Quoting.raw 2 4).Fits "x\"\"\"\\".toList := by
    refine ⟨by decide, by decide, by decide, fun run inside => ?_⟩
    have quotes : run ≤ "x\"\"\"\\".toList.count '"' := by
      simpa using inside.sublist.count_le '"'
    exact Nat.lt_succ_of_le quotes
  obtain ⟨alone, behind⟩ := lex_quote fits
  rw [written] at alone behind
  have lexed : ∃ xs, lex ("$$\"\"\"\"x\"\"\"\\\"\"\"\"" ++ " \\") = .ok xs :=
    ⟨(Lexing.of ("$$\"\"\"\"x\"\"\"\\\"\"\"\"" ++ " \\")).lexemes, by decide +kernel⟩
  obtain ⟨xs, lexed⟩ := lexed
  obtain ⟨ys, rfl⟩ := behind " \\" xs (by decide) lexed
  exact ⟨written, alone, ys, lexed⟩

end Highlight
