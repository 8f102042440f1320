import Highlight.Proofs.Classification.Angles
import Highlight.Proofs.Classification.Starts
import Highlight.Proofs.Statement.Memory

/-! Roles that only a region gives: type parameters and their variance, types, the `new` of a
constraint, and members of an enumeration. Where they stand is said by the tokens in front of them
and the starts of statements among these. Members depend on the scope. -/
namespace Highlight

/-- The brackets among the marks that come in pairs as `<` and `>`. -/
def Punctuation.angle? : Punctuation → Option DyckStep
  | .typeParametersBegin | .typeArgumentsBegin => some .U
  | .typeParametersEnd | .typeArgumentsEnd => some .D
  | _ => none

def anglesBehind (front : List Token) : List Punctuation :=
  unmatched Punctuation.angle? (marks front)

/-- A place for a type parameter starts with the token: the list begins, or a comma stands in it. -/
def SlotStart (front : List Token) (t : Token) : Prop :=
  t.role = .punctuation .typeParametersBegin ∨
    t.role = .punctuation .comma ∧ anglesBehind front = [.typeParametersBegin]

/-- No type parameter stands between the start of a place for one and the end of the tokens. -/
def SlotFree (front : List Token) : Prop :=
  ∃ earlier start inside, front = earlier ++ start :: inside ∧ SlotStart earlier start ∧
    ∀ t ∈ inside, ∀ text, t.role ≠ .typeParameter text

/-- What stands in front of a token with a role that only a region gives. A type parameter and a
variance stand in a place that no type parameter has filled yet. -/
def Token.InRegion (xs : List Lexeme) (front : List Token) (t : Token) : Prop :=
  match t.role with
  | .typeParameter _ | .modifier .contravariant | .modifier .covariant =>
    anglesBehind front = [.typeParametersBegin] ∧ SlotFree front
  | .type _ =>
    (.typeParametersBegin ∈ anglesBehind front ∧ 2 ≤ (anglesBehind front).length) ∨
      ∃ kind name, InStatement xs front [.name kind name, .punctuation .colon] ∨
        InStatement xs front [.name kind name, .keyword .whereClause]
  | .keyword .newConstraint =>
    InStatement xs front [.punctuation .typeParametersEnd, .keyword .whereClause]
  | _ => True

/-- A member is given its role in the body of an enumeration: before the step that gives it, the
innermost open scope is one. -/
def Token.GivenInEnum (xs : List Lexeme) (front : List Token) (t : Token) : Prop :=
  ∀ text, t.role = .enumMember text →
    ∃ before x after s next, xs = before ++ x :: after ∧ State.initial.read before = .ok s ∧
      s.tokens.length = front.length ∧ s.step x = .ok next ∧ next.tokens.head? = some t ∧
      s.nesting.kind? = some (.body .enumDecl)

structure RolesInRegions (xs : List Lexeme) (ts : List Token) : Prop where
  inRegion : EachBehind (Token.InRegion xs) ts
  starts : EachBehind (Token.StartsNext xs) ts
  apart : ∀ front between back t u first second, ts = front ++ t :: between ++ u :: back →
    t.role = .typeParameter first → u.role = .typeParameter second →
    ∃ before start after, between = before ++ start :: after ∧
      SlotStart (front ++ t :: before) start
  members : EachBehind (Token.GivenInEnum xs) ts

theorem Punctuation.angle?_eq_none {m : Punctuation} (other : m ∉ angles) : m.angle? = none := by
  cases m <;> first | rfl | exact absurd (by decide) other

/-- The open brackets of a statement are the unmatched ones among the tokens. -/
theorem AngleStep.unmatched (step : AngleStep opens mark? opens')
    (same : unmatched Punctuation.angle? ms = opens) :
    Highlight.unmatched Punctuation.angle? (ms ++ mark?.toList) = opens' := by
  cases step with
  | silent =>
    rw [Option.toList_none, List.append_nil]
    exact same
  | mark other =>
    rw [Option.toList_some, unmatched_concat, same, matchNext, Punctuation.angle?_eq_none other]
  | argumentsBegin | argumentsEnd | parametersBegin | parametersEnd =>
    rw [Option.toList_some, unmatched_concat, same]
    rfl

namespace SlotFree

theorem start (starts : SlotStart front t) : SlotFree (front ++ [t]) :=
  ⟨front, t, [], rfl, starts, nofun⟩

theorem concat (free : SlotFree front) (other : ∀ text, t.role ≠ .typeParameter text) :
    SlotFree (front ++ [t]) := by
  obtain ⟨earlier, start, inside, rfl, starts, others⟩ := free
  refine ⟨earlier, start, inside ++ [t], List.append_assoc .., starts, fun u member => ?_⟩
  rcases List.mem_append.mp member with member | here
  · exact others u member
  · exact List.mem_singleton.mp here ▸ other

/-- A type parameter that is already there stands in an earlier place. -/
theorem exists_start (free : SlotFree (front ++ t :: between))
    (parameter : t.role = .typeParameter text) :
    ∃ before start after, between = before ++ start :: after ∧
      SlotStart (front ++ t :: before) start := by
  obtain ⟨earlier, start, inside, split, starts, others⟩ := free
  have distinct : start.role ≠ .typeParameter text := by
    rcases starts with begins | ⟨comma, _⟩
    · rw [begins]
      nofun
    · rw [comma]
      nofun
  rcases List.append_eq_append_iff.mp split with ⟨before, same, rest⟩ | ⟨after, _, rest⟩
  · cases before with
    | nil =>
      obtain ⟨rfl, rfl⟩ := List.cons.inj rest
      exact absurd parameter distinct
    | cons u before =>
      obtain ⟨rfl, rfl⟩ := List.cons.inj rest
      exact ⟨before, start, inside, rfl, same ▸ starts⟩
  · cases after with
    | nil =>
      obtain ⟨rfl, rfl⟩ := List.cons.inj rest
      exact absurd parameter distinct
    | cons u after =>
      obtain ⟨rfl, rfl⟩ := List.cons.inj rest
      exact absurd parameter (others t (List.mem_append_right _ List.mem_cons_self) text)

end SlotFree

/-- The next word that is no variance is a type parameter. -/
def Statement.awaitsTypeParameter : Statement → Bool
  | .typeParameters _ awaitsName _ => awaitsName
  | _ => false

theorem KeepsHeader.awaits (kept : KeepsHeader s target)
    (awaits : target.awaitsTypeParameter = true) : s.awaitsTypeParameter = true := by
  cases kept with
  | same => exact awaits
  | _ => contradiction

/-- No word starts a place for a type parameter, and a type parameter fills the place. -/
theorem OnWord.awaits (onWord : OnWord around w p s t)
    (awaits : t.statement.awaitsTypeParameter = true) :
    s.awaitsTypeParameter = true ∧ ∀ text, t.role ≠ .typeParameter text := by
  cases onWord with
  | parameterArgument | variance => exact ⟨awaits, nofun⟩
  | _ => contradiction

/-- A type parameter is awaited since the list was opened, or since a comma in it. -/
theorem OnMark.awaits (onMark : OnMark around p s m t)
    (awaits : t.statement.awaitsTypeParameter = true) :
    s.awaitsTypeParameter = true ∨ t.role = .punctuation .typeParametersBegin ∨
      t.role = .punctuation .comma ∧ s.openAngles = [.typeParametersBegin] := by
  cases onMark with
  | leaves => exact .inl ((Statement.keepsHeader_leave s _).awaits awaits)
  | deepens => exact .inl ((Statement.keepsHeader_deepen_leave s _).awaits awaits)
  | nests => exact .inl ((Statement.keepsHeader_deepen s).awaits awaits)
  | lifts => exact .inl ((Statement.keepsHeader_lift s).awaits awaits)
  | passes | parameterArgumentsBegin | parameterArgumentsEnd => exact .inl awaits
  | typeParametersBegin => exact .inr (.inl rfl)
  | nextTypeParameter => exact .inr (.inr ⟨rfl, rfl⟩)
  | _ => contradiction

namespace Statement

theorem plain_of_retracts_leave {s : Statement} (retracts : (s.leave role).retracts = true) :
    (s.leave role).statement = .plain 0 := by
  cases s with
  | naming => rfl
  | start modifiers depth => cases depth <;> contradiction
  | _ => contradiction

/-- A statement that gives a keyword back declares nothing. -/
theorem Takes.plain_of_retracts (taken : Takes s around x t) (retracts : t.retracts = true) :
    ∃ depth, t.statement = .plain depth := by
  cases taken with
  | word =>
    rw [(onWord_word s around x.text x.position).retracts] at retracts
    contradiction
  | literal => exact ⟨0, plain_of_retracts_leave retracts⟩
  | @mark m =>
    have onMark := onMark_mark s around m x.position
    generalize s.mark around m x.position = t at onMark retracts
    cases onMark with
    | leaves => exact ⟨0, plain_of_retracts_leave retracts⟩
    | deepens => exact ⟨1, congrArg deepen (plain_of_retracts_leave retracts)⟩
    | _ => contradiction

theorem Takes.retracts_eq_false (taken : Takes s around x t)
    (other : ∀ depth, t.statement ≠ .plain depth) : t.retracts = false := by
  by_contra retracts
  obtain ⟨depth, plain⟩ := taken.plain_of_retracts (Bool.not_eq_false _ ▸ retracts)
  exact other depth plain

end Statement

namespace Token

theorem InRegion.retract (region : InRegion xs front t) : InRegion xs front t.retract := by
  unfold Token.retract
  split
  · trivial
  · exact region

/-- A region stays what it is while no statement starts in front of the token. -/
theorem InRegion.congr (region : InRegion xs front t)
    (same : ∀ n ≤ front.length, StartsBehind ys n → StartsBehind xs n) : InRegion ys front t := by
  unfold Token.InRegion at region ⊢
  split at region
  · exact region
  · exact region
  · exact region
  · refine region.imp_right fun ⟨kind, name, behind⟩ => ⟨kind, name, ?_⟩
    exact behind.imp (InStatement.congr · same) (InStatement.congr · same)
  · exact InStatement.congr region same
  · trivial

theorem inRegion_modifier (member : m ∈ Modifier.ofDeclarations) (xs : List Lexeme)
    (front : List Token) (p : Position) : InRegion xs front ⟨.modifier m, p⟩ := by
  cases m with
  | contravariant | covariant => exact absurd member (by decide)
  | _ => trivial

theorem inRegion_keyword (member : k ∈ Keyword.reserved) (xs : List Lexeme) (front : List Token)
    (p : Position) : InRegion xs front ⟨.keyword k, p⟩ := by
  cases k with
  | newConstraint => exact absurd member (by decide)
  | _ => trivial

/-- A word by itself has no role that needs a region. -/
theorem inRegion_ofWord (xs : List Lexeme) (front : List Token) (w : String) (p : Position) :
    InRegion xs front ⟨.ofWord w, p⟩ := by
  unfold Role.ofWord
  split
  · next found => exact inRegion_modifier (List.mem_of_find?_eq_some found) xs front p
  · next found => exact inRegion_keyword (List.mem_of_find?_eq_some found) xs front p
  · trivial

end Token

structure Statement.Behind (xs : List Lexeme) (front : List Token) (s : Statement) : Prop where
  wellFormed : s.WellFormed
  angles : anglesBehind front = s.openAngles
  remembers : ∃ roles, s.Remembers roles ∧ InStatement xs front roles
  slot : s.awaitsTypeParameter = true → SlotFree front

/-- Words get their roles where the regions of these roles are. -/
theorem OnWord.inRegion (onWord : OnWord around w p s t) (behind : s.Behind xs front) :
    Token.InRegion xs front ⟨t.role, p⟩ := by
  cases onWord with
  | modifier _ found => exact Token.inRegion_modifier (List.mem_of_find?_eq_some found) xs front p
  | ordinary | headerClause | headerWord | parameter | baseArgument | plain =>
    exact Token.inRegion_ofWord xs front w p
  | parameterArgument nested =>
    refine .inl ⟨?_, ?_⟩
    · simp [behind.angles, Statement.openAngles]
    · simp only [behind.angles, Statement.openAngles, List.length_append, List.length_replicate,
        List.length_singleton]
      omega
  | @variance m d angles flat found =>
    have top : anglesBehind front = [.typeParametersBegin] := by
      simp [behind.angles, Statement.openAngles, Nat.sub_eq_zero_of_le flat]
    have member : m ∈ Modifier.ofTypeParameters := List.mem_of_find?_eq_some found
    cases m with
    | contravariant | covariant => exact ⟨top, behind.slot rfl⟩
    | _ => exact absurd member (by decide)
  | typeParameter flat =>
    refine ⟨?_, behind.slot rfl⟩
    simp [behind.angles, Statement.openAngles, Nat.sub_eq_zero_of_le flat]
  | baseType =>
    obtain ⟨roles, ⟨⟨kind, name, bases⟩, _⟩, inStatement⟩ := behind.remembers
    exact .inr ⟨kind, name, .inl (inStatement.sublist bases)⟩
  | constraintArgument | constraintType =>
    obtain ⟨roles, ⟨⟨kind, name, clause⟩, _⟩, inStatement⟩ := behind.remembers
    exact .inr ⟨kind, name, .inr (inStatement.sublist clause)⟩
  | @constraintKeyword k =>
    cases k with
    | newConstraint =>
      obtain ⟨roles, ⟨_, list⟩, inStatement⟩ := behind.remembers
      exact inStatement.sublist list
    | _ => trivial
  | _ => trivial

namespace Statement.Takes

/-- Only a word needs a region, and in front of a word nothing is retracted. -/
theorem inRegion (taken : Takes s around x t) (behind : s.Behind xs front)
    (same : t.retracts = false → front' = front) : Token.InRegion xs front' ⟨t.role, p⟩ := by
  cases taken with
  | word =>
    have onWord := onWord_word s around x.text x.position
    rw [same onWord.retracts]
    exact onWord.inRegion behind
  | literal =>
    rw [Statement.literal, role_leave]
    trivial
  | mark =>
    rcases (onMark_mark s around _ x.position).role_eq with role | ⟨_, _, role⟩ <;>
      rw [role] <;> trivial

theorem slotFree (taken : Takes s around x t) (behind : s.Behind xs front)
    (awaits : t.statement.awaitsTypeParameter = true) : SlotFree (front ++ [⟨t.role, p⟩]) := by
  cases taken with
  | word =>
    obtain ⟨free, other⟩ := (onWord_word s around x.text x.position).awaits awaits
    exact (behind.slot free).concat other
  | literal =>
    refine (behind.slot ((keepsHeader_leave s _).awaits awaits)).concat ?_
    rw [Statement.literal, role_leave]
    intro text same
    contradiction
  | @mark m =>
    have onMark := onMark_mark s around m x.position
    rcases onMark.awaits awaits with free | begins | ⟨comma, top⟩
    · refine (behind.slot free).concat fun text same => ?_
      rcases onMark.role_eq with role | ⟨_, _, role⟩ <;> rw [role] at same <;> contradiction
    · exact .start (.inl begins)
    · exact .start (.inr ⟨comma, behind.angles.trans top⟩)

end Statement.Takes

namespace State

variable {s next : State} {x : Lexeme} {xs : List Lexeme} {t : Turn}

theorem tokens_turn (kept : t.retracts = false) (s : State) (p : Position) :
    (s.turn p t).tokens = ⟨t.role, p⟩ :: s.tokens := by
  simp [turn, kept]

/-- What the statement remembers, if none starts with the step. -/
theorem Steps.remembers (behind : s.statement.Behind xs s.tokens.reverse)
    (inside : ∀ n, StartsBehind xs n → n ≤ s.tokens.reverse.length) (steps : s.Steps x next) :
    ∃ roles, next.statement.Remembers roles ∧ InStatement xs next.tokens.reverse roles := by
  cases steps with
  | trivia => exact behind.remembers
  | opened | closed | semicolon => exact ⟨[], trivial, .nil _ _⟩
  | @turn t taken =>
    cases kept : t.retracts with
    | true =>
      obtain ⟨depth, plain⟩ := taken.plain_of_retracts kept
      rw [State.turn, plain]
      exact ⟨[], trivial, .nil _ _⟩
    | false =>
      obtain ⟨roles, remembers, inStatement⟩ := behind.remembers
      rw [tokens_turn kept, List.reverse_cons]
      exact ⟨_, taken.remembers remembers, inStatement.concat inside _⟩

/-- While a type parameter is awaited, its place is free. -/
theorem Steps.slotFree (behind : s.statement.Behind xs s.tokens.reverse) (steps : s.Steps x next)
    (awaits : next.statement.awaitsTypeParameter = true) : SlotFree next.tokens.reverse := by
  cases steps with
  | trivia => exact behind.slot awaits
  | opened | closed | semicolon => contradiction
  | @turn t taken =>
    have stays := taken.retracts_eq_false fun depth plain => by
      rw [State.turn, plain] at awaits
      contradiction
    rw [tokens_turn stays, List.reverse_cons]
    exact taken.slotFree behind awaits

/-- What a statement has behind it is kept up with each step. -/
theorem Steps.behind (read : State.initial.read xs = .ok s)
    (behind : s.statement.Behind xs s.tokens.reverse) (steps : s.Steps x next) :
    next.statement.Behind (xs ++ [x]) next.tokens.reverse where
  wellFormed := steps.wellFormed behind.wellFormed
  angles := by
    obtain ⟨mark?, new, angles⟩ := steps.angleStep behind.wellFormed
    unfold anglesBehind
    rw [new]
    exact angles.unmatched behind.angles
  remembers := by
    by_cases fresh : next.statement = .empty
    · rw [fresh]
      exact ⟨[], trivial, .nil _ _⟩
    · have inside : ∀ n, StartsBehind xs n → n ≤ s.tokens.reverse.length := by
        intro n starts
        rw [List.length_reverse]
        exact starts.length_le read
      obtain ⟨roles, remembers, inStatement⟩ := steps.remembers behind inside
      refine ⟨roles, remembers, inStatement.congr fun n _ starts => ?_⟩
      exact (starts.of_concat (read_concat read steps)).resolve_right fun new => fresh new.1
  slot := steps.slotFree behind

theorem read_behind (read : State.initial.read xs = .ok s) :
    s.statement.Behind xs s.tokens.reverse :=
  read_run (P := fun xs s => s.statement.Behind xs s.tokens.reverse)
    (fun read behind steps => steps.behind read behind) read
    ⟨trivial, rfl, ⟨[], trivial, .nil _ _⟩, nofun⟩

/-- Each token of a step stands in the region of its role. -/
theorem Steps.inRegion (read : State.initial.read xs = .ok s)
    (behind : s.statement.Behind xs s.tokens.reverse)
    (kept : EachBehind (Token.InRegion xs) s.tokens.reverse) (steps : s.Steps x next) :
    EachBehind (Token.InRegion (xs ++ [x])) next.tokens.reverse := by
  have before : EachBehind (Token.InRegion xs) next.tokens.reverse := by
    cases steps with
    | trivia => exact kept
    | turn taken =>
      refine eachBehind_turn Token.InRegion.retract kept (taken.inRegion behind fun kept => ?_)
      rw [tokens_turn kept, List.tail_cons]
    | opened | closed =>
      rw [List.reverse_cons]
      exact kept.concat trivial
    | semicolon =>
      refine eachBehind_turn Token.InRegion.retract kept ?_
      rw [Statement.role_leave]
      trivial
  -- A statement that starts with the step starts behind all of the tokens.
  intro front t back split
  refine (before front t back split).congr fun n inside starts => ?_
  refine (starts.of_concat (read_concat read steps)).resolve_right fun ⟨_, all⟩ => ?_
  have size := congrArg List.length split
  rw [List.length_reverse, List.length_append, List.length_cons] at size
  omega

theorem read_inRegion (read : State.initial.read xs = .ok s) :
    EachBehind (Token.InRegion xs) s.tokens.reverse :=
  read_run (P := fun xs s => EachBehind (Token.InRegion xs) s.tokens.reverse)
    (fun read kept steps => steps.inRegion read (read_behind read) kept) read .nil

end State

theorem Role.ofWord_ne_enumMember (w text : String) : Role.ofWord w ≠ .enumMember text := by
  unfold Role.ofWord
  split <;> nofun

/-- A member is read in the body of an enumeration and nowhere else. -/
theorem Statement.Takes.member {text : String} (taken : Statement.Takes s around x t)
    (member : t.role = .enumMember text) : around.inEnumBody = true ∧ t.retracts = false := by
  rcases taken.role_cases with ⟨_, onWord⟩ | ⟨_, role⟩ | ⟨_, role⟩
  · refine ⟨?_, onWord.retracts⟩
    cases onWord with
    | member body => exact body
    | ordinary | headerClause | headerWord | parameter | baseArgument | plain =>
      exact absurd member (Role.ofWord_ne_enumMember _ _)
    | _ => contradiction
  · exact nomatch role.symm.trans member
  · exact nomatch role.symm.trans member

theorem Token.GivenInEnum.retract (given : Token.GivenInEnum xs front t) :
    Token.GivenInEnum xs front t.retract := by
  unfold Token.retract
  split
  · nofun
  · exact given

theorem Token.GivenInEnum.append (given : Token.GivenInEnum xs front t) (ys : List Lexeme) :
    Token.GivenInEnum (xs ++ ys) front t := by
  intro text member
  obtain ⟨before, x, after, s, next, rfl, facts⟩ := given text member
  exact ⟨before, x, after ++ ys, s, next, List.append_assoc .., facts⟩

namespace State

variable {s next : State} {x : Lexeme} {xs : List Lexeme} {t : Turn}

/-- Members are given in enumerations only. -/
theorem Steps.members (read : State.initial.read xs = .ok s)
    (kept : EachBehind (Token.GivenInEnum xs) s.tokens.reverse) (steps : s.Steps x next) :
    EachBehind (Token.GivenInEnum (xs ++ [x])) next.tokens.reverse := by
  have kept : EachBehind (Token.GivenInEnum (xs ++ [x])) s.tokens.reverse :=
    fun front t back split => (kept front t back split).append [x]
  cases steps with
  | trivia => exact kept
  | turn taken =>
    refine eachBehind_turn Token.GivenInEnum.retract kept fun text member => ?_
    obtain ⟨body, stays⟩ := taken.member member
    have tokens := tokens_turn stays s x.position
    refine ⟨xs, x, [], s, _, rfl, read, ?_, step_of_steps (.turn taken), ?_, of_decide_eq_true body⟩
    · rw [tokens, List.tail_cons, List.length_reverse]
    · rw [tokens, List.head?_cons]
  | opened | closed =>
    rw [List.reverse_cons]
    exact kept.concat nofun
  | semicolon =>
    refine eachBehind_turn Token.GivenInEnum.retract kept fun text member => ?_
    rw [Statement.role_leave] at member
    contradiction

theorem read_members (read : State.initial.read xs = .ok s) :
    EachBehind (Token.GivenInEnum xs) s.tokens.reverse :=
  read_run (P := fun xs s => EachBehind (Token.GivenInEnum xs) s.tokens.reverse)
    (fun read kept steps => steps.members read kept) read .nil

end State

/-- Roles that belong to a region stand in such a region, in each text that classifies. -/
theorem rolesInRegions_of_classify (classified : classify xs = .ok ts) : RolesInRegions xs ts := by
  obtain ⟨s, read, _, rfl⟩ := classify_eq_ok.mp classified
  have inRegion := State.read_inRegion read
  refine ⟨inRegion, State.read_startsNext read, ?_, State.read_members read⟩
  intro front between back t u first second split parameter next
  have region := inRegion (front ++ t :: between) u back split
  rw [Token.InRegion, next] at region
  exact region.2.exists_start parameter

/-- Each of the roles in its region, types in each of theirs:
`class C<in T<S>> : B where T : new() { } enum E { M }`. -/
theorem rolesInRegions_class_and_enum :
    ∃ xs ts,
      xs =
        [⟨.word, "class", .start 0⟩, ⟨.word, "C", .start 0⟩, ⟨.punctuation, "<", .start 0⟩,
          ⟨.word, "in", .start 0⟩, ⟨.word, "T", .start 0⟩, ⟨.punctuation, "<", .start 0⟩,
          ⟨.word, "S", .start 0⟩, ⟨.punctuation, ">", .start 0⟩, ⟨.punctuation, ">", .start 0⟩,
          ⟨.punctuation, ":", .start 0⟩, ⟨.word, "B", .start 0⟩, ⟨.word, "where", .start 0⟩,
          ⟨.word, "T", .start 0⟩, ⟨.punctuation, ":", .start 0⟩, ⟨.word, "new", .start 0⟩,
          ⟨.punctuation, "(", .start 0⟩, ⟨.punctuation, ")", .start 0⟩,
          ⟨.punctuation, "\x7b", .start 0⟩, ⟨.punctuation, "\x7d", .start 0⟩,
          ⟨.word, "enum", .start 0⟩, ⟨.word, "E", .start 0⟩, ⟨.punctuation, "\x7b", .start 0⟩,
          ⟨.word, "M", .start 0⟩, ⟨.punctuation, "\x7d", .start 0⟩] ∧
      classify xs = .ok ts ∧ RolesInRegions xs ts ∧
      ts.map Token.role =
        [.keyword (.declares .classDecl), .name .classDecl "C", .punctuation .typeParametersBegin,
          .modifier .contravariant, .typeParameter "T", .punctuation .typeArgumentsBegin,
          .type "S", .punctuation .typeArgumentsEnd, .punctuation .typeParametersEnd,
          .punctuation .colon, .type "B", .keyword .whereClause, .type "T", .punctuation .colon,
          .keyword .newConstraint, .punctuation .openParen, .punctuation .closeParen,
          .punctuation .openBrace, .punctuation .closeBrace, .keyword (.declares .enumDecl),
          .name .enumDecl "E", .punctuation .openBrace, .enumMember "M",
          .punctuation .closeBrace] :=
  ⟨_, _, rfl, rfl, rolesInRegions_of_classify rfl, rfl⟩

end Highlight
