import Highlight.Proofs.Lexeme.Cut

/-! Space between pieces. A piece that is no trivia is cut alike in front of any space, and trivia
takes a space in or is cut alike too. -/
namespace Highlight

def isSpacing (c : Char) : Bool :=
  isBlank c || c = '\n'

variable {lineStart lineStart' : Bool} {w : Char} {rest other : List Char}

theorem spacing_cases (spacing : isSpacing w = true) :
    w = ' ' ∨ w = '\t' ∨ w = '\x0b' ∨ w = '\x0c' ∨ w = '\n' := by
  simp only [isSpacing, isBlank, Bool.or_eq_true, decide_eq_true_eq] at spacing
  grind

/-- In front of `other` stands a space, or the text ends. -/
def Gap (other : List Char) : Prop :=
  ∀ w ∈ other.head?, isSpacing w = true

theorem gap_nil : Gap [] := by
  intro w head
  contradiction

theorem gap_cons (spacing : isSpacing w = true) : Gap (w :: rest) := by
  intro c head
  cases head
  exact spacing

theorem Gap.head? (gap : Gap other) {p : Char → Bool}
    (outside : ∀ w, isSpacing w = true → p w = false) : other.head?.any p = false := by
  cases other with
  | nil => rfl
  | cons w other => exact outside w (gap w rfl)

theorem numberLength_gap (gap : Gap other) : numberLength other = 0 := by
  cases other with
  | nil => rfl
  | cons w other =>
    rcases spacing_cases (gap w rfl) with rfl | rfl | rfl | rfl | rfl <;> simp [numberLength]

/-- Before a number only the next two characters count, and a space is no digit. -/
theorem numberLength_insert {front back : List Char} (stop : numberLength (front ++ back) = 0)
    (nonempty : front ≠ []) (spacing : isSpacing w = true) :
    numberLength (front ++ w :: back) = 0 := by
  obtain ⟨c, front, rfl⟩ := List.exists_cons_of_ne_nil nonempty
  have noDigit : w.isDigit = false := by
    rcases spacing_cases spacing with rfl | rfl | rfl | rfl | rfl <;> rfl
  have look : (front ++ w :: back).head?.any Char.isDigit = true →
      (front ++ back).head?.any Char.isDigit = true := by
    cases front with
    | nil => intro digit; simp [noDigit] at digit
    | cons => exact id
  simp only [List.cons_append, numberLength, Bool.or_eq_true, Bool.and_eq_true] at stop ⊢
  split at stop
  · contradiction
  · next outside =>
    exact if_neg (mt (Or.imp_right (And.imp_right look)) outside)

theorem of?_slash (noLine : rest.head? ≠ some '/') (noBlock : rest.head? ≠ some '*') :
    Form.of? lineStart '/' rest = some .mark :=
  Form.of?_of_starts <| .mark (by decide) (fun _ => by decide) (fun _ => ⟨noLine, noBlock⟩)
    (Opening.of?_eq_none (by decide) (by decide) rest) (by decide) (by decide) nofun

namespace Piece

variable {piece : Piece} {ps : List Piece}

def isTrivia (piece : Piece) : Bool :=
  piece.form.kind.isTrivia

def significant (ps : List Piece) : List Piece :=
  ps.filter (!isTrivia ·)

theorem significant_cons (piece : Piece) (ps : List Piece) :
    significant (piece :: ps) =
      if piece.isTrivia then significant ps else piece :: significant ps := by
  rw [significant, List.filter_cons]
  cases piece.isTrivia <;> rfl

/-- A mark, if it is one, that classification has a role for. -/
def Known (piece : Piece) : Prop :=
  piece.form = .mark → isLoneMark piece.head = true ∨ piece.head = '/'

theorem Known.of?_gap (known : piece.Known) (mark : piece.form = .mark) (gap : Gap other) :
    Form.of? lineStart piece.head other = some .mark := by
  rcases known mark with lone | slash
  · exact of?_mark lone lineStart other
  · rw [slash]
    have no {c : Char} (solid : isSpacing c = false) : other.head? ≠ some c := by
      intro head
      simp [gap c head] at solid
    exact of?_slash (no rfl) (no rfl)

/-- No significant lexeme takes a character that may be put behind it. -/
theorem takes_spacing (significant : piece.isTrivia = false) (spacing : isSpacing w = true) :
    piece.takes w = false := by
  obtain ⟨form, c, tail⟩ := piece
  cases form with
  | lineBreak | directive | blanks | lineComment | blockComment => contradiction
  | character | number | mark => rfl
  | string => rcases spacing_cases spacing with rfl | rfl | rfl | rfl | rfl <;> rfl
  | word =>
    have outside : isWordContinue w = false := by
      rcases spacing_cases spacing with rfl | rfl | rfl | rfl | rfl <;> decide
    exact outside

/-- A piece stays as it is in front of a gap. -/
theorem Cuts.gap (cuts : piece.Cuts lineStart rest) (known : piece.Known) (gap : Gap other)
    (free : other.head?.any piece.takes = false)
    (directive : piece.form = .directive → lineStart' = true) : piece.Cuts lineStart' other := by
  refine cuts.exchange ?_ directive (fun _ => numberLength_gap gap) fun mark => ?_
  · rw [free]
    exact nofun
  · exact known.of?_gap mark gap

/-- A significant piece is cut alike in front of any gap. -/
theorem Cuts.gap_of_significant (cuts : piece.Cuts lineStart rest) (known : piece.Known)
    (significant : piece.isTrivia = false) (gap : Gap other) (lineStart' : Bool) :
    piece.Cuts lineStart' other := by
  refine cuts.gap known gap (gap.head? fun w => takes_spacing significant) fun directive => ?_
  rw [isTrivia, directive] at significant
  contradiction

def extend (piece : Piece) (w : Char) : Piece :=
  { piece with tail := piece.tail ++ [w] }

/-- Trivia takes in what it could reach. -/
theorem Cuts.extend (cuts : piece.Cuts lineStart rest) (trivia : piece.isTrivia = true)
    (takes : piece.takes w = true) : (piece.extend w).Cuts lineStart rest := by
  have starts := cuts.starts
  have reaches := cuts.reaches
  have comment := cuts.comment_tail
  obtain ⟨form, c, tail⟩ := piece
  refine cuts_iff.mpr ⟨?_, ?_⟩
  · dsimp only [Piece.extend] at *
    cases starts with
    | lineBreak found => exact .lineBreak found
    | directive start found => exact .directive start found
    | blanks found => exact .blanks found
    | lineComment slash next =>
      rw [List.head?_append_of_ne_nil _ (comment (.inl rfl))] at next
      refine .lineComment slash ?_
      rw [List.append_assoc, List.head?_append_of_ne_nil _ (comment (.inl rfl)), next]
    | blockComment | string | character | number | word | verbatimWord | mark => contradiction
  · dsimp only [Piece.extend] at *
    cases reaches with
    | lineBreak =>
      simp only [Piece.takes, text, Bool.and_eq_true, decide_eq_true_eq, List.cons.injEq] at takes
      obtain ⟨⟨rfl, _⟩, rfl⟩ := takes
      exact .lineBreakPair rfl
    | run run inside stop =>
      have same : Piece.takes ⟨form, c, tail⟩ = _ := takes_of_run? run
      rw [same] at takes
      refine .run run (List.forall_mem_append.mpr ⟨inside, ?_⟩) stop
      exact List.forall_mem_singleton.mpr takes
    | lineBreakPair => simp [Piece.takes, text] at takes
    | blockComment | string | character | number | mark => contradiction

/-- Only numbers look beyond the next character. -/
theorem Cuts.alike (cuts : piece.Cuts lineStart rest) (known : piece.Known)
    (head : other.head? = rest.head?) (directive : lineStart = true → lineStart' = true)
    (number : piece.form = .number → numberLength other = 0) : piece.Cuts lineStart' other := by
  refine cuts.exchange (by rw [head]; exact id) ?_ number fun mark => ?_
  · exact fun form => directive (cuts.lineStart_of_directive form)
  · rcases known mark with lone | slash
    · exact of?_mark lone lineStart' other
    · have found := Form.of?_eq_some.mp (cuts.of?_of_mark mark)
      rw [slash] at found ⊢
      cases found with
      | mark _ _ noComment =>
        rw [← head] at noComment
        exact of?_slash (noComment rfl).1 (noComment rfl).2

/-- Where all marks are known, no `#` waits for the start of a line. -/
theorem Chain.start (chain : Chain lineStart ps rest) (known : ∀ piece ∈ ps, piece.Known)
    (directive : lineStart = true → lineStart' = true) : Chain lineStart' ps rest := by
  induction ps generalizing lineStart lineStart' with
  | nil => trivial
  | cons piece ps ih =>
    obtain ⟨cuts, chain⟩ := chain
    refine ⟨cuts.alike (known _ (.head _)) rfl directive cuts.numberLength_eq_zero, ?_⟩
    refine ih chain (fun piece member => known piece (.tail _ member)) ?_
    cases piece.form <;> first | exact id | exact directive

theorem Cuts.isBlank_head (cuts : piece.Cuts lineStart rest) :
    isBlank piece.head = true ↔ piece.form = .blanks := by
  have starts := cuts.starts
  constructor
  · exact fun blank => cuts.form_eq (.blanks blank)
  · intro blanks
    rw [blanks] at starts
    cases starts with
    | blanks found => exact found

theorem cuts_blanks {body : List Char} (blank : isBlank w = true)
    (inside : ∀ c ∈ body, isBlank c = true) (stop : rest.head?.any isBlank = false) :
    (⟨.blanks, w, body⟩ : Piece).Cuts lineStart rest where
  form := Form.of?_of_starts (.blanks blank)
  length := congrArg Except.ok (runLength_eq_length.mpr ⟨inside, stop⟩)

/-- The characters are cut into pieces of which the significant ones are those of `ps`. -/
def Recuts (lineStart : Bool) (ps : List Piece) (cs : List Char) : Prop :=
  ∃ qs, Chain lineStart qs [] ∧ qs.flatMap text = cs ∧ significant qs = significant ps

theorem Recuts.of_significant (recut : Recuts lineStart (significant ps) cs) :
    Recuts lineStart ps cs := by
  have same : significant (significant ps) = significant ps := by
    simp only [significant, List.filter_filter, Bool.and_self]
  rwa [Recuts, same] at recut

theorem Cuts.recuts (cuts : piece.Cuts lineStart other)
    (recut : Recuts (piece.form.keepsLineStart lineStart) ps other) :
    Recuts lineStart (piece :: ps) (piece.text ++ other) := by
  obtain ⟨qs, chain, rfl, same⟩ := recut
  refine ⟨piece :: qs, ⟨?_, chain⟩, rfl, ?_⟩
  · rwa [List.append_nil]
  · rw [significant_cons, significant_cons, same]

theorem Cuts.recuts_trivia (cuts : piece.Cuts lineStart other) (trivia : piece.isTrivia = true)
    (recut : Recuts (piece.form.keepsLineStart lineStart) ps other) :
    Recuts lineStart ps (piece.text ++ other) := by
  have added := cuts.recuts recut
  rwa [Recuts, significant_cons, if_pos trivia] at added

/-- A space before the first piece. -/
theorem Chain.space_before (chain : Chain lineStart ps []) (known : ∀ piece ∈ ps, piece.Known)
    (spacing : isSpacing w = true) : Recuts lineStart ps (w :: ps.flatMap text) := by
  rcases Bool.or_eq_true_iff.mp spacing with blank | feed
  · cases ps with
    | nil => exact ⟨[⟨.blanks, w, []⟩], ⟨cuts_blanks blank nofun rfl, trivial⟩, rfl, rfl⟩
    | cons piece ps =>
      obtain ⟨cuts, behind⟩ := chain
      by_cases merges : piece.form = .blanks
      · obtain ⟨form, c, tail⟩ := piece
        obtain rfl : form = .blanks := merges
        obtain ⟨inside, stop⟩ := runLength_eq_length.mp (Except.ok.inj cuts.length)
        refine ⟨⟨.blanks, w, c :: tail⟩ :: ps, ⟨cuts_blanks blank ?_ stop, behind⟩, rfl, rfl⟩
        exact List.forall_mem_cons.mpr ⟨cuts.isBlank_head.mpr rfl, inside⟩
      · have stop : isBlank piece.head = false :=
          Bool.eq_false_iff.mpr (mt cuts.isBlank_head.mp merges)
        exact ⟨⟨.blanks, w, []⟩ :: piece :: ps, ⟨cuts_blanks blank nofun stop, cuts, behind⟩, rfl,
          rfl⟩
  · obtain rfl := of_decide_eq_true feed
    exact ⟨⟨.lineBreak, '\n', []⟩ :: ps, ⟨⟨rfl, rfl⟩, chain.start known fun _ => rfl⟩, rfl, rfl⟩

/-- A space behind the first piece. -/
theorem Chain.space_behind (chain : Chain lineStart (piece :: ps) [])
    (known : ∀ q ∈ piece :: ps, q.Known) (spacing : isSpacing w = true) :
    Recuts lineStart (piece :: ps) (piece.text ++ w :: ps.flatMap text) := by
  obtain ⟨cuts, chain⟩ := chain
  rw [List.append_nil] at cuts
  obtain ⟨here, others⟩ := List.forall_mem_cons.mp known
  cases takes : piece.takes w with
  | true =>
    have trivia : piece.isTrivia = true := by
      by_contra significant
      rw [takes_spacing (Bool.eq_false_iff.mpr significant) spacing] at takes
      contradiction
    have extended : (piece.extend w).isTrivia = true := trivia
    refine ⟨piece.extend w :: ps, ⟨?_, chain⟩, ?_, ?_⟩
    · rw [List.append_nil]
      exact cuts.extend trivia takes
    · simp [Piece.extend, text]
    · simp [significant, trivia, extended]
  | false =>
    have inFront : piece.Cuts lineStart (w :: ps.flatMap text) :=
      cuts.gap here (gap_cons spacing) takes cuts.lineStart_of_directive
    exact inFront.recuts (chain.space_before others spacing)

/-- A space between any two pieces, or at either end. -/
theorem Chain.space_between (chain : Chain lineStart (front ++ back) [])
    (known : ∀ piece ∈ front ++ back, piece.Known) (spacing : isSpacing w = true) :
    Recuts lineStart (front ++ back) (front.flatMap text ++ w :: back.flatMap text) := by
  induction front generalizing lineStart with
  | nil => exact chain.space_before known spacing
  | cons piece front ih =>
    cases front with
    | nil =>
      rw [List.flatMap_singleton]
      exact chain.space_behind known spacing
    | cons next front =>
      obtain ⟨cuts, chain⟩ := chain
      obtain ⟨here, others⟩ := List.forall_mem_cons.mp known
      have some : (next :: front).flatMap text ≠ [] := List.cons_ne_nil _ _
      rw [List.append_nil, List.append_eq, List.flatMap_append] at cuts
      rw [List.flatMap_cons, List.append_assoc]
      refine (cuts.alike here ?_ id fun number => ?_).recuts (ih chain others)
      · rw [List.head?_append_of_ne_nil _ some, List.head?_append_of_ne_nil _ some]
      · exact numberLength_insert (cuts.numberLength_eq_zero number) some spacing

theorem head?_intercalate (piece : Piece) (ps : List Piece) :
    ([' '].intercalate ((piece :: ps).map text)).head? = some piece.head := by
  cases ps with
  | nil => rfl
  | cons => rw [List.map_cons, List.map_cons, List.intercalate_cons_cons]; rfl

/-- Significant pieces with single spaces between them. -/
theorem recuts_intercalate (cut : ∀ piece ∈ ps, ∃ lineStart rest, piece.Cuts lineStart rest)
    (known : ∀ piece ∈ ps, piece.Known) (significant : ∀ piece ∈ ps, piece.isTrivia = false) :
    Recuts lineStart ps ([' '].intercalate (ps.map text)) := by
  induction ps generalizing lineStart with
  | nil => exact ⟨[], trivial, rfl, rfl⟩
  | cons piece ps ih =>
    obtain ⟨⟨_, _, cuts⟩, cutOthers⟩ := List.forall_mem_cons.mp cut
    obtain ⟨knownHere, knownOthers⟩ := List.forall_mem_cons.mp known
    obtain ⟨here, others⟩ := List.forall_mem_cons.mp significant
    have inFront {rest : List Char} (gap : Gap rest) : piece.Cuts lineStart rest :=
      cuts.gap_of_significant knownHere here gap lineStart
    have ih := @ih (piece.form.keepsLineStart lineStart) cutOthers knownOthers others
    cases ps with
    | nil =>
      rw [List.map_singleton, List.intercalate_singleton, ← List.append_nil piece.text]
      exact (inFront gap_nil).recuts ih
    | cons next ps =>
      obtain ⟨_, _, cutsNext⟩ := cutOthers next (.head _)
      have blank : (⟨.blanks, ' ', []⟩ : Piece).Cuts (piece.form.keepsLineStart lineStart)
          ([' '].intercalate ((next :: ps).map text)) := by
        refine cuts_blanks rfl nofun ?_
        rw [head?_intercalate]
        refine Bool.eq_false_iff.mpr fun merges => ?_
        have trivia := others next (.head _)
        rw [isTrivia, cutsNext.isBlank_head.mp merges] at trivia
        contradiction
      rw [List.map_cons, List.map_cons, List.intercalate_cons_cons, ← List.map_cons,
        List.append_assoc]
      exact (inFront (gap_cons rfl)).recuts (blank.recuts_trivia rfl ih)

end Piece

end Highlight
