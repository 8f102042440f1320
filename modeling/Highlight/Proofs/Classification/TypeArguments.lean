import Highlight.Proofs.Classification.OpenBrackets
import Highlight.Proofs.Classification.RecordWord

/-! Words in lists of type arguments. Each is a type, in a list of type parameters, in a base list
and in a constraint clause alike, but for one: in a base list `where` is a keyword there too. -/
namespace Highlight

def Punctuation.paren? : Punctuation → Option DyckStep
  | .openParen => some .U
  | .closeParen => some .D
  | _ => none

/-- Between the tokens `front` and `back` stands a list of type arguments, and of the parentheses
that have been opened in it none is open. -/
def InArguments (front back : List Token) : Prop :=
  ∃ earlier opening inside rest closing later,
    front = earlier ++ opening :: inside ∧ back = rest ++ closing :: later ∧
    opening.role = .punctuation .typeArgumentsBegin ∧
    closing.role = .punctuation .typeArgumentsEnd ∧
    Balanced Punctuation.angle? (marks (inside ++ rest)) ∧
    unmatched Punctuation.paren? (marks inside) = []

/-- The role of the word `w` in a list of type arguments, if it is read in the given phase. -/
inductive ArgumentRole (phase : Phase) (w : String) : Role → Prop
  | type (other : phase = .baseList → w ≠ "where") : ArgumentRole phase w (.type w)
  | clause (bases : phase = .baseList) (text : w = "where") :
      ArgumentRole phase w (.keyword .whereClause)

theorem ArgumentRole.ne_declares (argument : ArgumentRole phase w role) :
    role ≠ .keyword (.declares kind) := by
  cases argument <;> nofun

/-- A list of type arguments is open while the brackets behind its first one can be balanced. -/
theorem mem_anglesBehind (begins : opening.role = .punctuation .typeArgumentsBegin)
    (balanced : Balanced Punctuation.angle? (marks inside ++ rest)) (earlier : List Token) :
    .typeArgumentsBegin ∈ anglesBehind (earlier ++ opening :: inside) := by
  have mark : marks (opening :: inside) = .typeArgumentsBegin :: marks inside := by
    rw [← List.singleton_append, marks_append, marks_singleton, begins]
    rfl
  obtain ⟨inner, same⟩ := exists_unmatched (a := .typeArgumentsBegin) rfl balanced (marks earlier)
  rw [anglesBehind, marks_append, mark, same]
  exact List.mem_append_right _ List.mem_cons_self

def parensAfter (count : Nat) : Option Punctuation → Nat
  | some .openParen => count + 1
  | some .closeParen => count - 1
  | _ => count

theorem length_unmatched_paren (ms : List Punctuation) (mark? : Option Punctuation) :
    (unmatched Punctuation.paren? (ms ++ mark?.toList)).length =
      parensAfter (unmatched Punctuation.paren? ms).length mark? := by
  cases mark? with
  | none =>
    rw [Option.toList_none, List.append_nil]
    rfl
  | some m =>
    rw [Option.toList_some, unmatched_concat]
    cases m with
    | closeParen => exact List.length_tail
    | _ => rfl

theorem OnWord.baseList_of_phase (onWord : OnWord around w p s t)
    (bases : t.statement.phase = .baseList) : s.phase = .baseList := by
  cases onWord with
  | baseArgument | baseWhere | baseType => rfl
  | _ => contradiction

/-- A base list is entered from the header. -/
theorem OnMark.baseList_of_phase (onMark : OnMark around p s m t)
    (bases : t.statement.phase = .baseList) : s.phase = .baseList ∨ s.phase = .header := by
  have kept : KeepsHeader s t.statement → s.phase = .baseList := fun kept =>
    kept.phase_eq bases (by decide)
  cases onMark with
  | passes => exact .inl bases
  | leaves => exact .inl (kept (Statement.keepsHeader_leave s _))
  | deepens => exact .inl (kept (Statement.keepsHeader_deepen_leave s _))
  | nests => exact .inl (kept (Statement.keepsHeader_deepen s))
  | lifts => exact .inl (kept (Statement.keepsHeader_lift s))
  | basesBegin => exact .inr rfl
  | baseArgumentsBegin | baseArgumentsEnd | baseParenBegin | baseParenEnd => exact .inl rfl
  | _ => contradiction

/-- In a list of type arguments a word has its role, if no parenthesis of a base list is open. -/
theorem OnWord.argumentRole (onWord : OnWord around w p s t)
    (inside : .typeArgumentsBegin ∈ s.openAngles)
    (outside : s.phase = .baseList → s.parens = []) : ArgumentRole s.phase w t.role := by
  -- A list of type parameters is not yet one of type arguments.
  have nested : ∀ {angles : List Position}, angles.length ≤ 1 →
      .typeArgumentsBegin ∉
        List.replicate (angles.length - 1) Punctuation.typeArgumentsBegin ++
          [.typeParametersBegin] := by
    intro angles flat
    simp [Nat.sub_eq_zero_of_le flat]
  cases onWord with
  | parameterArgument | constraintArgument => exact .type nofun
  | surplus flat | variance flat | typeParameter flat => exact absurd inside (nested flat)
  | baseArgument opened => exact absurd (outside rfl) opened
  | baseClause _ text | baseWhere _ text => exact .clause rfl text
  | baseType other => exact .type fun _ => other
  | _ => cases inside

namespace Statement

theorem exists_baseList {s : Statement} (bases : s.phase = .baseList) :
    ∃ d colon angles parens, s = .baseList d colon angles parens := by
  cases s with
  | baseList d colon angles parens => exact ⟨d, colon, angles, parens, rfl⟩
  | _ => contradiction

theorem openAngles_of_header {s : Statement} (header : s.phase = .header) : s.openAngles = [] := by
  cases s with
  | header => rfl
  | _ => contradiction

/-- A base list keeps each parenthesis that is opened in it. -/
theorem length_parens_mark (d : Declaration) (colon : Position) (angles parens : List Position)
    (around : Surroundings) (m : Punctuation) (p : Position) :
    ((baseList d colon angles parens).mark around m p).statement.parens.length =
      parensAfter parens.length
        ((baseList d colon angles parens).mark around m p).role.punctuation? := by
  cases m with
  | closeParen => exact List.length_tail
  | lessThan =>
    simp only [mark, lessThan]
    split
    case h_3 same _ =>
      cases same
      rfl
    case h_5 => rfl
    all_goals contradiction
  | greaterThan => cases angles <;> rfl
  | _ => rfl

namespace Takes

/-- In a base list the parentheses are those that the tokens open and close. -/
theorem length_parens (taken : Takes s around x t) (bases : s.phase = .baseList) :
    t.statement.parens.length = parensAfter s.parens.length t.role.punctuation? := by
  obtain ⟨d, colon, angles, parens, rfl⟩ := exists_baseList bases
  cases taken with
  | word =>
    have onWord := onWord_word (baseList d colon angles parens) around x.text x.position
    rw [onWord.parens, onWord.punctuation?]
    rfl
  | literal => rfl
  | mark => exact length_parens_mark d colon angles parens around _ x.position

theorem baseList_of_phase (taken : Takes s around x t) (bases : t.statement.phase = .baseList) :
    s.phase = .baseList ∨ s.phase = .header := by
  cases taken with
  | word => exact .inl ((onWord_word s around x.text x.position).baseList_of_phase bases)
  | literal => exact .inl ((keepsHeader_leave s _).phase_eq bases (by decide))
  | mark => exact (onMark_mark s around _ x.position).baseList_of_phase bases

/-- A list of type arguments begins outside of the parentheses that are kept. -/
theorem parens_of_arguments (taken : Takes s around x t)
    (outside : ∀ text, around.last? = some (.type text) → s.parens = [])
    (begins : t.role = .punctuation .typeArgumentsBegin) : t.statement.parens = [] := by
  obtain ⟨m, other, onMark⟩ := taken.exists_onMark begins (by decide)
  cases onMark with
  | baseArgumentsBegin behind => exact outside _ behind
  | parameterArgumentsBegin | constraintArgumentsBegin => rfl
  | leaves | deepens => exact absurd ((role_leave s _).symm.trans begins) other
  | passes | lifts => exact absurd begins other
  | _ => cases begins

end Takes
end Statement

namespace State

variable {s next : State} {x : Lexeme} {xs : List Lexeme} {t : Turn}

/-- The parentheses that a base list keeps are those that are open behind the beginning of each list
of type arguments around. -/
def CountsParens (s : State) : Prop :=
  s.statement.phase = .baseList → ∀ earlier opening inside rest,
    s.tokens.reverse = earlier ++ opening :: inside →
    opening.role = .punctuation .typeArgumentsBegin →
    Balanced Punctuation.angle? (marks inside ++ rest) →
    s.statement.parens.length = (unmatched Punctuation.paren? (marks inside)).length

/-- Turns keep count of the parentheses in a base list. -/
theorem CountsParens.turn (counts : CountsParens s) (read : State.initial.read xs = .ok s)
    (taken : s.statement.Takes s.surroundings x t) : CountsParens (s.turn x.position t) := by
  intro bases earlier opening inside rest split begins balanced
  have stays := taken.retracts_eq_false fun depth plain => by
    rw [State.turn, plain] at bases
    contradiction
  rw [tokens_turn stays, List.reverse_cons] at split
  rcases List.eq_nil_or_concat inside with rfl | ⟨inside, u, rfl⟩
  · obtain ⟨_, same⟩ := List.append_inj' split rfl
    obtain rfl := List.singleton_injective same
    have none := taken.parens_of_arguments (read_parens_of_type read) begins
    exact congrArg List.length none
  · rw [List.concat_eq_append] at split balanced ⊢
    rw [← List.cons_append, ← List.append_assoc] at split
    obtain ⟨front, same⟩ := List.append_inj' split rfl
    obtain rfl := List.singleton_injective same
    rw [marks_append] at balanced ⊢
    rw [List.append_assoc] at balanced
    rcases taken.baseList_of_phase bases with bases | header
    · rw [marks_singleton, length_unmatched_paren, ← counts bases _ _ _ _ front begins balanced]
      exact taken.length_parens bases
    · -- The base list begins only here, and no bracket is open in a header.
      have still := mem_anglesBehind begins balanced earlier
      rw [← front, (read_behind read).angles, Statement.openAngles_of_header header] at still
      contradiction

theorem read_countsParens (read : State.initial.read xs = .ok s) : CountsParens s := by
  refine read_run (P := fun _ s => CountsParens s) ?_ read nofun
  intro ys s x next read counts steps
  cases steps with
  | trivia => exact counts
  | turn taken => exact counts.turn read taken
  | opened | closed | semicolon => nofun

end State

/-- Every word in a list of type arguments, where no parenthesis is open. -/
theorem argumentRole_of_inArguments (classified : classify xs = .ok ts)
    (lexemes : xs = before ++ x :: after) (word : x.kind = .word) (tokens : ts = front ++ t :: back)
    (same : front.length = (significant before).length) (inside : InArguments front back) :
    ∃ s, State.initial.read before = .ok s ∧ ArgumentRole s.statement.phase x.text t.role := by
  obtain ⟨last, read, _, rfl⟩ := classify_eq_ok.mp classified
  rw [lexemes] at read
  obtain ⟨s, readBefore, readRest⟩ := State.read_append_eq_ok.mp read
  refine ⟨s, readBefore, ?_⟩
  have onWord := Statement.onWord_word s.statement s.surroundings x.text x.position
  have pushed := State.tokens_turn onWord.retracts s x.position
  rw [State.read, State.step_of_steps (.turn (.word word))] at readRest
  obtain ⟨new, u, all, role⟩ := State.exists_newest readRest pushed
  have here : front = s.tokens.reverse ∧ t = u := by
    rw [all, List.reverse_append, List.reverse_cons, List.append_assoc,
      List.singleton_append] at tokens
    have length := (State.read_covered readBefore).length_eq
    obtain ⟨front, rest⟩ := List.append_inj tokens (length.trans same.symm)
    exact ⟨front.symm, (List.cons.inj rest).1.symm⟩
  obtain ⟨rfl, rfl⟩ := here
  obtain ⟨earlier, opening, inside, rest, _, _, split, _, begins, _, balanced, outside⟩ := inside
  rw [marks_append] at balanced
  have opened := mem_anglesBehind begins balanced earlier
  rw [← split, (State.read_behind readBefore).angles] at opened
  have argument := onWord.argumentRole opened fun bases => by
    have count := State.read_countsParens readBefore bases _ _ _ _ split begins balanced
    rw [outside] at count
    exact List.length_eq_zero_iff.mp count
  rcases role with rfl | ⟨record, _⟩
  · exact argument
  · exact absurd record argument.ne_declares

/-- In a list of type parameters: `class C<T<S>>;`. -/
theorem argumentRole_of_parameter :
    ∃ xs ts before x after front t back,
      before =
        [⟨.word, "class", .start 0⟩, ⟨.word, "C", .start 6⟩, ⟨.punctuation, "<", .start 7⟩,
          ⟨.word, "T", .start 8⟩, ⟨.punctuation, "<", .start 9⟩] ∧
      x = ⟨.word, "S", .start 10⟩ ∧
      after =
        [⟨.punctuation, ">", .start 11⟩, ⟨.punctuation, ">", .start 12⟩,
          ⟨.punctuation, ";", .start 13⟩] ∧
      classify xs = .ok ts ∧ xs = before ++ x :: after ∧ x.kind = .word ∧
      ts = front ++ t :: back ∧ t = ⟨.type "S", .start 10⟩ ∧
      front.length = (significant before).length ∧ InArguments front back ∧
      ∃ s, State.initial.read before = .ok s ∧ ArgumentRole s.statement.phase x.text t.role := by
  have role {xs ts} := @argumentRole_of_inArguments xs ts
    [⟨.word, "class", .start 0⟩, ⟨.word, "C", .start 6⟩, ⟨.punctuation, "<", .start 7⟩,
      ⟨.word, "T", .start 8⟩, ⟨.punctuation, "<", .start 9⟩]
    ⟨.word, "S", .start 10⟩
    [⟨.punctuation, ">", .start 11⟩, ⟨.punctuation, ">", .start 12⟩,
      ⟨.punctuation, ";", .start 13⟩]
    ([⟨.keyword (.declares .classDecl), .start 0⟩, ⟨.name .classDecl "C", .start 6⟩,
      ⟨.punctuation .typeParametersBegin, .start 7⟩, ⟨.typeParameter "T", .start 8⟩] ++
      [⟨.punctuation .typeArgumentsBegin, .start 9⟩])
    ⟨.type "S", .start 10⟩
    [⟨.punctuation .typeArgumentsEnd, .start 11⟩, ⟨.punctuation .typeParametersEnd, .start 12⟩,
      ⟨.punctuation .semicolon, .start 13⟩]
  have inside : InArguments
      ([⟨.keyword (.declares .classDecl), .start 0⟩, ⟨.name .classDecl "C", .start 6⟩,
        ⟨.punctuation .typeParametersBegin, .start 7⟩, ⟨.typeParameter "T", .start 8⟩] ++
        [⟨.punctuation .typeArgumentsBegin, .start 9⟩])
      [⟨.punctuation .typeArgumentsEnd, .start 11⟩, ⟨.punctuation .typeParametersEnd, .start 12⟩,
        ⟨.punctuation .semicolon, .start 13⟩] :=
    ⟨_, _, [], [], _, _, rfl, rfl, rfl, rfl, ⟨0, rfl⟩, rfl⟩
  exact ⟨_, _, _, _, _, _, _, _, rfl, rfl, rfl, rfl, rfl, rfl, rfl, rfl, rfl, inside,
    role rfl rfl rfl rfl rfl inside⟩

/-- In a base list `where` is a keyword among the arguments too: `class C : A<where>;`. -/
theorem keyword_in_arguments :
    ¬∀ xs ts before x after front t back, classify xs = .ok ts → xs = before ++ x :: after →
      x.kind = .word → ts = front ++ t :: back →
      front.length = (significant before).length → InArguments front back →
      t.role = .type x.text := by
  intro all
  have role := all _ _
    [⟨.word, "class", .start 0⟩, ⟨.word, "C", .start 6⟩, ⟨.punctuation, ":", .start 8⟩,
      ⟨.word, "A", .start 10⟩, ⟨.punctuation, "<", .start 11⟩]
    ⟨.word, "where", .start 12⟩
    [⟨.punctuation, ">", .start 17⟩, ⟨.punctuation, ";", .start 18⟩]
    ([⟨.keyword (.declares .classDecl), .start 0⟩, ⟨.name .classDecl "C", .start 6⟩,
      ⟨.punctuation .colon, .start 8⟩, ⟨.type "A", .start 10⟩] ++
      [⟨.punctuation .typeArgumentsBegin, .start 11⟩])
    ⟨.keyword .whereClause, .start 12⟩
    [⟨.punctuation .typeArgumentsEnd, .start 17⟩, ⟨.punctuation .semicolon, .start 18⟩]
    rfl rfl rfl rfl rfl
    ⟨_, _, [], [], _, _, rfl, rfl, rfl, rfl, ⟨0, rfl⟩, rfl⟩
  contradiction

end Highlight
