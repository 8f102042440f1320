import Highlight.Proofs.Statement.Transition
import Mathlib.Data.List.Forall2

/-! Every lexeme that is no trivia becomes one token, at its place and with its text, whatever role
the context gives it. -/
namespace Highlight

structure Token.Covers (t : Token) (x : Lexeme) : Prop where
  position : t.position = x.position
  text : t.role.text = x.text

@[simp] theorem Role.text_ofWord (w : String) : (Role.ofWord w).text = w := by
  unfold Role.ofWord
  split
  · next found => exact Modifier.spelling_of_ofWord? found
  · next found => exact Keyword.spelling_of_ofWord? found
  · rfl

theorem OnWord.text (onWord : OnWord around w p s t) : t.role.text = w := by
  cases onWord with
  | modifier _ found => exact Modifier.spelling_of_ofWord? found
  | variance _ found => exact Modifier.spelling_of_variance? found
  | declares _ found | redeclares _ found => exact Keyword.spelling_of_ofWord? found
  | nextClause found | constraintKeyword found =>
    exact Keyword.spelling_of_ofConstraintWord? found
  | baseClause _ text | baseWhere _ text => exact text.symm
  | ordinary | headerClause | headerWord | parameter | baseArgument | plain =>
    exact Role.text_ofWord w
  | _ => rfl

/-- A mark keeps its spelling when it gets the role of a bracket. -/
theorem OnMark.text (onMark : OnMark around p s m t) : t.role.text = m.spelling := by
  cases onMark with
  | leaves | deepens => exact congrArg Role.text (Statement.role_leave s (.punctuation m))
  | _ => rfl

/-- A role keeps the text of its lexeme. -/
theorem Statement.Takes.text (taken : Takes s around x t) : t.role.text = x.text := by
  cases taken with
  | word => exact (onWord_word s around x.text x.position).text
  | literal => exact congrArg Role.text (role_leave s (.literal x.text))
  | @mark m _ found =>
    have spelled := (onMark_mark s around m x.position).text
    exact spelled.trans (Punctuation.spelling_of_ofMark? found)

/-- A retracted `record` is still the word `record`. -/
theorem Token.Covers.retract (covers : Token.Covers t x) : t.retract.Covers x := by
  unfold Token.retract
  split
  · next was => exact ⟨covers.position, by rw [← covers.text, was]; rfl⟩
  · exact covers

theorem forall₂_modifyHead {Relates : α → β → Prop} {f : α → α}
    (kept : ∀ {a b}, Relates a b → Relates (f a) b) (related : List.Forall₂ Relates as bs) :
    List.Forall₂ Relates (as.modifyHead f) bs := by
  cases related with
  | nil => exact .nil
  | cons first rest => exact .cons (kept first) rest

namespace State

variable {s : State} {x : Lexeme} {xs : List Lexeme} {t : Turn} {Relates : Token → Lexeme → Prop}

/-- A relation of tokens with lexemes that taking back a keyword respects goes on with the turns. -/
theorem relates_turn (retract : ∀ {t x}, Relates t x → Relates t.retract x)
    (related : List.Forall₂ Relates s.tokens xs) (here : Relates ⟨t.role, p⟩ x) :
    List.Forall₂ Relates (s.turn p t).tokens (x :: xs) := by
  refine .cons here ?_
  split
  · exact forall₂_modifyHead retract related
  · exact related

/-- What relates a lexeme to the token that it becomes, and still does when that is retracted,
relates the lexemes to the tokens. -/
theorem read_forall₂ (retract : ∀ {t x}, Relates t x → Relates t.retract x)
    (taken : ∀ {s around x t}, Statement.Takes s around x t → Relates ⟨t.role, x.position⟩ x)
    (mark : ∀ {x m}, x.kind = .punctuation → Punctuation.ofMark? x.text = some m →
      Relates ⟨.punctuation m, x.position⟩ x)
    (read : State.initial.read xs = .ok s) :
    List.Forall₂ Relates s.tokens.reverse (significant xs) := by
  -- Tokens stand newest first.
  have newest : List.Forall₂ Relates s.tokens (significant xs).reverse := by
    refine read_initial
      (P := fun xs s => List.Forall₂ Relates s.tokens (significant xs).reverse) ?_ read .nil
    intro ys s x next related steps
    have kept : x.kind.isTrivia = false →
        (significant (ys ++ [x])).reverse = x :: (significant ys).reverse := by
      intro kept
      simp [significant_cons kept]
    cases steps with
    | trivia trivia => simpa [significant_cons_trivia trivia] using related
    | turn turn =>
      rw [kept turn.kept]
      exact relates_turn retract related (taken turn)
    | opened kind found | closed kind found =>
      rw [kept (by rw [kind]; rfl)]
      exact .cons (mark kind found) related
    | semicolon kind found =>
      rw [kept (by rw [kind]; rfl)]
      refine relates_turn retract related ?_
      rw [Statement.role_leave]
      exact mark kind found
  rw [← List.forall₂_reverse_iff, List.reverse_reverse]
  exact newest

theorem read_covered (read : State.initial.read xs = .ok s) :
    List.Forall₂ Token.Covers s.tokens.reverse (significant xs) :=
  read_forall₂ Token.Covers.retract (fun taken => ⟨rfl, taken.text⟩)
    (fun _ found => ⟨rfl, Punctuation.spelling_of_ofMark? found⟩) read

end State

/-- Nothing is left out, added, moved or respelled. -/
theorem classify_covers (classified : classify xs = .ok ts) :
    List.Forall₂ Token.Covers ts (significant xs) := by
  obtain ⟨s, read, _, rfl⟩ := classify_eq_ok.mp classified
  exact State.read_covered read

/-- A `record` that is retracted, an `in` of a type parameter and a comment, at places that no text
gives them. -/
theorem classify_covers_record_and_variance :
    ∃ xs ts,
      xs =
        [⟨.word, "record", ⟨1, 1, 0⟩⟩, ⟨.punctuation, "=", ⟨1, 7, 6⟩⟩,
          ⟨.punctuation, ";", ⟨4, 4, 4⟩⟩, ⟨.comment, "/**/", ⟨0, 0, 9⟩⟩,
          ⟨.word, "class", ⟨1, 1, 0⟩⟩, ⟨.word, "C", ⟨1, 1, 0⟩⟩, ⟨.punctuation, "<", ⟨2, 1, 0⟩⟩,
          ⟨.word, "in", ⟨1, 1, 0⟩⟩, ⟨.word, "T", ⟨1, 1, 0⟩⟩, ⟨.punctuation, ">", ⟨3, 1, 0⟩⟩,
          ⟨.punctuation, ";", ⟨4, 4, 4⟩⟩, ⟨.literal, "1", ⟨5, 5, 5⟩⟩] ∧
      classify xs = .ok ts ∧ List.Forall₂ Token.Covers ts (significant xs) :=
  ⟨_, _, rfl, rfl, classify_covers rfl⟩

end Highlight
