import Highlight.Proofs.Classification.Failure
import Highlight.Proofs.Classification.Regions
import Highlight.Proofs.Statement.Declared

/-! Declared names. Each stands behind the keyword that declares it, or behind the point of a
qualified name, and nothing but closing brackets may come between the two. -/
namespace Highlight

/-- Behind the role a name of the kind comes next. -/
inductive Role.Announces (kind : DeclKind) : Role → Prop
  | keyword : Announces kind (.keyword (.declares kind))
  | accessor (qualified : kind = .namespaceDecl) : Announces kind (.punctuation .accessor)

/-- A name of the kind is announced, and closing brackets at most have been read since. -/
def Announced (kind : DeclKind) (front : List Token) : Prop :=
  ∃ earlier announcer brackets, front = earlier ++ announcer :: brackets ∧
    announcer.role.Announces kind ∧ ∀ b ∈ brackets, b.role = .punctuation .closeBracket

/-- If the token is a declared name, it is announced by the tokens in front of it. -/
def Token.NamedBehind (front : List Token) (t : Token) : Prop :=
  ∀ kind text, t.role = .name kind text → Announced kind front

/-- Where names stand, and what gives a declaration up that still awaits one. -/
structure DeclaredNames (xs : List Lexeme) (ts : List Token) : Prop where
  behind : EachBehind Token.NamedBehind ts
  givenUp : ∀ before x after s d, xs = before ++ x :: after →
    State.initial.read before = .ok s → s.statement = .naming d → x.kind.isTrivia = false →
    x.kind ≠ .word → x.mark? ≠ some .closeBracket →
    ∃ next, s.step x = .ok next ∧ next.statement.declaration? = none

namespace Announced

theorem here (announces : t.role.Announces kind) : Announced kind (front ++ [t]) :=
  ⟨front, t, [], rfl, announces, nofun⟩

theorem bracket (announced : Announced kind front) (role : t.role = .punctuation .closeBracket) :
    Announced kind (front ++ [t]) := by
  obtain ⟨earlier, announcer, brackets, rfl, announces, closing⟩ := announced
  refine ⟨earlier, announcer, brackets ++ [t], List.append_assoc .., announces, ?_⟩
  intro b member
  rcases List.mem_append.mp member with member | last
  · exact closing b member
  · exact List.mem_singleton.mp last ▸ role

end Announced

theorem KeepsHeader.naming (kept : KeepsHeader s (.naming d)) : s = .naming d := by
  cases kept
  rfl

theorem OnWord.naming (onWord : OnWord around w p s t) (awaits : t.statement = .naming d) :
    t.role.Announces d.kind := by
  cases onWord with
  | declares | redeclares =>
    cases awaits
    exact .keyword
  | _ => contradiction

/-- A mark leads to a name if a name was awaited already, or if the mark announces one. -/
theorem OnMark.naming (onMark : OnMark around p s m t) (awaits : t.statement = .naming d) :
    s = .naming d ∨ t.role.Announces d.kind ∧ t.retracts = false := by
  have kept : KeepsHeader s t.statement → s = .naming d := fun kept => (awaits ▸ kept).naming
  cases onMark with
  | passes => exact .inl awaits
  | leaves => exact .inl (kept (Statement.keepsHeader_leave s _))
  | deepens => exact .inl (kept (Statement.keepsHeader_deepen_leave s _))
  | nests => exact .inl (kept (Statement.keepsHeader_deepen s))
  | lifts => exact .inl (kept (Statement.keepsHeader_lift s))
  | nextPart qualified =>
    cases awaits
    exact .inr ⟨.accessor qualified, rfl⟩
  | _ => contradiction

namespace Statement

/-- Every mark but a closing bracket gives the declaration up. -/
theorem plain_of_mark_naming (d : Declaration) (around : Surroundings) (p : Position)
    {m : Punctuation} (other : m ≠ .closeBracket) :
    ∃ depth, ((naming d).mark around m p).statement = .plain depth := by
  cases m <;> first | contradiction | exact ⟨_, rfl⟩

/-- How a statement comes to await a name. -/
theorem Takes.naming (taken : Takes s around x t) (awaits : t.statement = .naming d) :
    t.retracts = false ∧
      (t.role.Announces d.kind ∨ s = .naming d ∧ t.role = .punctuation .closeBracket) := by
  cases taken with
  | word =>
    have onWord := onWord_word s around x.text x.position
    exact ⟨onWord.retracts, .inl (onWord.naming awaits)⟩
  | literal =>
    have kept := keepsHeader_leave s (.literal x.text)
    obtain rfl := (awaits ▸ kept : KeepsHeader s (.naming d)).naming
    contradiction
  | @mark m =>
    rcases (onMark_mark s around m x.position).naming awaits with rfl | ⟨announces, kept⟩
    · by_cases bracket : m = .closeBracket
      · subst bracket
        exact ⟨rfl, .inr ⟨rfl, rfl⟩⟩
      · obtain ⟨depth, plain⟩ := plain_of_mark_naming d around x.position bracket
        exact nomatch plain.symm.trans awaits
    · exact ⟨kept, .inl announces⟩

/-- Only a statement that awaits a name takes one, and with the kind of its declaration. -/
theorem Takes.name {text : String} (taken : Takes s around x t)
    (named : t.role = .name kind text) :
    t.retracts = false ∧ ∃ d, s = .naming d ∧ d.kind = kind := by
  rcases taken.role_cases with ⟨_, onWord⟩ | ⟨_, role⟩ | ⟨_, role⟩
  · refine ⟨onWord.retracts, ?_⟩
    cases onWord with
    | named =>
      cases named
      exact ⟨_, rfl, rfl⟩
    | ordinary | headerClause | headerWord | parameter | baseArgument | plain =>
      have noName := (Role.name?_ofWord x.text).symm.trans (congrArg Role.name? named)
      contradiction
    | _ => contradiction
  · exact nomatch role.symm.trans named
  · exact nomatch role.symm.trans named

end Statement

theorem Token.NamedBehind.retract (behind : Token.NamedBehind front t) :
    Token.NamedBehind front t.retract := by
  unfold Token.retract
  split
  · nofun
  · exact behind

namespace State

variable {s next : State} {x : Lexeme} {xs : List Lexeme}

/-- A name that the statement awaits is announced by the tokens. -/
structure NamesKept (s : State) : Prop where
  announced : ∀ d, s.statement = .naming d → Announced d.kind s.tokens.reverse
  behind : EachBehind Token.NamedBehind s.tokens.reverse

/-- Whatever a step does, an awaited name stays announced. -/
theorem Steps.namesKept (kept : NamesKept s) (steps : s.Steps x next) : NamesKept next := by
  cases steps with
  | trivia => exact kept
  | @turn t taken =>
    constructor
    · intro d awaits
      obtain ⟨stays, announces | ⟨naming, bracket⟩⟩ := taken.naming awaits
      · rw [tokens_turn stays, List.reverse_cons]
        exact .here announces
      · rw [tokens_turn stays, List.reverse_cons]
        exact (kept.announced d naming).bracket bracket
    · refine eachBehind_turn Token.NamedBehind.retract kept.behind fun kind text named => ?_
      obtain ⟨stays, d, naming, rfl⟩ := taken.name named
      rw [tokens_turn stays, List.tail_cons]
      exact kept.announced d naming
  | opened | closed =>
    refine ⟨nofun, ?_⟩
    rw [List.reverse_cons]
    exact kept.behind.concat nofun
  | semicolon =>
    refine ⟨nofun, eachBehind_turn Token.NamedBehind.retract kept.behind fun kind text named => ?_⟩
    rw [Statement.role_leave] at named
    contradiction

theorem read_namesKept (read : State.initial.read xs = .ok s) : NamesKept s :=
  read_keeps (fun kept steps => steps.namesKept kept) read ⟨nofun, .nil⟩

/-- A literal and any mark but a closing bracket end a declaration that awaits a name. -/
theorem Steps.declaration?_eq_none (steps : s.Steps x next) (naming : s.statement = .naming d)
    (kept : x.kind.isTrivia = false) (noWord : x.kind ≠ .word)
    (noBracket : x.mark? ≠ some .closeBracket) : next.statement.declaration? = none := by
  cases steps with
  | trivia trivia => exact absurd (trivia.symm.trans kept) (by decide)
  | opened | closed | semicolon => rfl
  | turn taken =>
    rw [naming] at taken
    cases taken with
    | word kind => exact absurd kind noWord
    | literal => rfl
    | @mark m kind found =>
      have other : m ≠ .closeBracket := by
        rintro rfl
        exact noBracket (Lexeme.mark?_eq_some.mpr ⟨kind, found⟩)
      obtain ⟨depth, plain⟩ := Statement.plain_of_mark_naming d s.surroundings x.position other
      rw [State.turn, plain]
      rfl

end State

/-- Every declared name of a text. -/
theorem declaredNames_of_classify (classified : classify xs = .ok ts) : DeclaredNames xs ts := by
  obtain ⟨last, read, _, rfl⟩ := classify_eq_ok.mp classified
  refine ⟨(State.read_namesKept read).behind, ?_⟩
  rintro before x after s d rfl readBefore naming kept noWord noBracket
  obtain ⟨_, same, readAfter⟩ := State.read_append_eq_ok.mp read
  obtain rfl := Except.ok.inj (readBefore.symm.trans same)
  unfold State.read at readAfter
  split at readAfter
  · contradiction
  · next stepped =>
    have steps := State.steps_of_step stepped
    exact ⟨_, stepped, steps.declaration?_eq_none naming kept noWord noBracket⟩

/-- The second part of a qualified name stands behind a bracket: `namespace A.]B;`. -/
theorem declaredNames_qualified :
    ∃ xs ts,
      xs =
        [⟨.word, "namespace", .start 0⟩, ⟨.word, "A", .start 10⟩, ⟨.punctuation, ".", .start 11⟩,
          ⟨.punctuation, "]", .start 12⟩, ⟨.word, "B", .start 13⟩,
          ⟨.punctuation, ";", .start 14⟩] ∧
      classify xs = .ok ts ∧
      ts.map Token.role =
        [.keyword (.declares .namespaceDecl), .name .namespaceDecl "A", .punctuation .accessor,
          .punctuation .closeBracket, .name .namespaceDecl "B", .punctuation .semicolon] ∧
      DeclaredNames xs ts :=
  ⟨_, _, rfl, rfl, rfl, declaredNames_of_classify rfl⟩

/-- A closing bracket does not give the declaration up. -/
theorem name_behind_bracket :
    ¬∀ xs ts, classify xs = .ok ts → ∀ front kind text p back,
      ts = front ++ ⟨.name kind text, p⟩ :: back →
      ∃ earlier announcer, front = earlier ++ [announcer] ∧ announcer.role.Announces kind := by
  intro all
  obtain ⟨earlier, announcer, split, announces⟩ := all
    [⟨.word, "class", .start 0⟩, ⟨.punctuation, "]", .start 6⟩, ⟨.word, "C", .start 8⟩,
      ⟨.punctuation, ";", .start 9⟩] _ rfl
    ([⟨.keyword (.declares .classDecl), .start 0⟩] ++ [⟨.punctuation .closeBracket, .start 6⟩])
    .classDecl "C" (.start 8) [⟨.punctuation .semicolon, .start 9⟩] rfl
  obtain ⟨_, same⟩ := List.append_inj' split rfl
  cases same
  cases announces

end Highlight
