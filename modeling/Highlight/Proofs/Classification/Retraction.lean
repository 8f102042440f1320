import Highlight.Proofs.Brackets
import Highlight.Proofs.Statement.Transition

/-! Tokens stay as they are. The one exception is a `record` that waits for its name: the next
lexeme may take its role back. -/
namespace Highlight
namespace Statement

/-- The keyword read last may lose its role. -/
def retractable : Statement → Bool
  | .naming d => d.parts.isEmpty
  | _ => false

@[simp] theorem retracts_leave (s : Statement) (role : Role) :
    (s.leave role).retracts = s.retractable := by
  unfold leave
  split
  · rfl
  · rfl
  · next notNaming =>
    cases s with
    | naming d => exact absurd rfl (notNaming d)
    | _ => rfl

end Statement

theorem OnWord.retracts (onWord : OnWord around w p s t) : t.retracts = false := by
  cases onWord <;> rfl

theorem OnMark.retractable (onMark : OnMark around p s m t) (retracts : t.retracts = true) :
    s.retractable = true := by
  cases onMark with
  | leaves | deepens => exact (Statement.retracts_leave s (.punctuation m)).symm.trans retracts
  | _ => contradiction

namespace Statement

/-- Only a `record` that was read last is taken back. -/
theorem Takes.retractable (taken : Takes s around x t) (retracts : t.retracts = true) :
    s.retractable = true := by
  cases taken with
  | word =>
    rw [(onWord_word s around x.text x.position).retracts] at retracts
    contradiction
  | literal => exact (retracts_leave s (.literal x.text)).symm.trans retracts
  | mark => exact (onMark_mark s around _ x.position).retractable retracts

theorem retractable_of_openRegion? {s : Statement} (closed : s.openRegion? = none) :
    s.retractable = false := by
  cases s with
  | naming d => simp [openRegion?, unclosed?, angles, parens] at closed
  | _ => rfl

end Statement

/-- The marks among the tokens, in the roles that they have got. -/
def marks (ts : List Token) : List Punctuation :=
  ts.filterMap fun t => t.role.punctuation?

theorem marks_append (ts us : List Token) : marks (ts ++ us) = marks ts ++ marks us :=
  List.filterMap_append ..

theorem marks_singleton (t : Token) : marks [t] = t.role.punctuation?.toList := by
  unfold marks
  cases found : t.role.punctuation? <;> simp [found]

theorem Token.punctuation?_retract (t : Token) :
    t.retract.role.punctuation? = t.role.punctuation? := by
  unfold retract
  split
  · next record => rw [record]; rfl
  · rfl

namespace State

variable {s next last : State} {ts : List Token} {x : Lexeme} {t : Turn}

/-- No further step changes the tokens `ts`. -/
def Settled (ts : List Token) (s : State) : Prop :=
  ∃ new, s.tokens = new ++ ts ∧ (new = [] → s.statement.retractable = false)

theorem Settled.push (settled : Settled ts s) (kept : next.tokens = u :: s.tokens) :
    Settled ts next := by
  obtain ⟨new, tokens, _⟩ := settled
  exact ⟨u :: new, by rw [kept, tokens, List.cons_append], nofun⟩

theorem Settled.turn (settled : Settled ts s)
    (retractable : t.retracts = true → s.statement.retractable = true) :
    Settled ts (s.turn p t) := by
  cases retracts : t.retracts with
  | false => exact settled.push (u := ⟨t.role, p⟩) (by simp [State.turn, retracts])
  | true =>
    obtain ⟨new, tokens, quiet⟩ := settled
    cases new with
    | nil =>
      rw [quiet rfl] at retractable
      exact absurd (retractable retracts) Bool.false_ne_true
    | cons u new =>
      exact ⟨⟨t.role, p⟩ :: u.retract :: new, by simp [State.turn, retracts, tokens], nofun⟩

/-- Settled tokens stay as they are. -/
theorem Steps.settled (settled : Settled ts s) (steps : s.Steps x next) : Settled ts next := by
  cases steps with
  | trivia => exact settled
  | turn taken => exact settled.turn taken.retractable
  | opened | closed => exact settled.push rfl
  | semicolon =>
    obtain ⟨new, tokens, _⟩ := settled.turn (p := x.position)
      (fun retracts => (Statement.retracts_leave _ (.punctuation .semicolon)).symm.trans retracts)
    exact ⟨new, tokens, fun _ => rfl⟩

theorem read_settled (settled : Settled ts s) (read : s.read xs = .ok last) : Settled ts last :=
  read_keeps (fun settled steps => steps.settled settled) read settled

theorem settled_of_openRegion? (closed : s.statement.openRegion? = none) :
    Settled s.tokens s :=
  ⟨[], rfl, fun _ => Statement.retractable_of_openRegion? closed⟩

/-- Whatever is the same for a retracted token is read off the tokens as if nothing were
retracted. -/
theorem filterMap_turn {f : Token → Option α} (same : ∀ u : Token, f u.retract = f u) :
    (s.turn p t).tokens.filterMap f = [⟨t.role, p⟩].filterMap f ++ s.tokens.filterMap f := by
  have kept : (s.tokens.modifyHead Token.retract).filterMap f = s.tokens.filterMap f := by
    cases s.tokens with
    | nil => rfl
    | cons u us => simp [List.filterMap_cons, same]
  unfold State.turn
  split
  · rw [← kept, ← List.filterMap_append]
    rfl
  · rw [← List.filterMap_append]
    rfl

/-- A turn adds its mark, and taking back a keyword leaves the marks alone. -/
theorem marks_turn (s : State) (p : Position) (t : Turn) :
    marks (s.turn p t).tokens.reverse =
      marks s.tokens.reverse ++ t.role.punctuation?.toList := by
  unfold marks
  rw [List.filterMap_reverse, filterMap_turn Token.punctuation?_retract, List.reverse_append,
    ← List.filterMap_reverse]
  cases found : t.role.punctuation? <;> simp [found]

theorem marks_leave (s : State) (p : Position) (m : Punctuation) :
    marks (s.turn p (s.statement.leave (.punctuation m))).tokens.reverse =
      marks s.tokens.reverse ++ [m] := by
  rw [marks_turn, Statement.role_leave]
  rfl

theorem marks_push (t : Token) (ts : List Token) :
    marks (t :: ts).reverse = marks ts.reverse ++ t.role.punctuation?.toList := by
  rw [List.reverse_cons, marks_append, marks_singleton]

/-- What each token stands behind is the same after a turn, if it is for a retracted token. -/
theorem eachBehind_turn {Behind : List Token → Token → Prop} {t : Turn}
    (retract : ∀ {front u}, Behind front u → Behind front (Token.retract u))
    (kept : EachBehind Behind s.tokens.reverse)
    (new : Behind (s.turn p t).tokens.tail.reverse ⟨t.role, p⟩) :
    EachBehind Behind (s.turn p t).tokens.reverse := by
  have old : EachBehind Behind (s.turn p t).tokens.tail.reverse := by
    unfold State.turn
    dsimp only [List.tail_cons]
    split
    · cases tokens : s.tokens with
      | nil => exact .nil
      | cons u us =>
        rw [tokens, List.reverse_cons] at kept
        rw [List.modifyHead_cons, List.reverse_cons]
        exact kept.of_append.concat (retract (kept us.reverse u [] rfl))
    · exact kept
  have tokens : (s.turn p t).tokens.reverse = (s.turn p t).tokens.tail.reverse ++ [⟨t.role, p⟩] :=
    List.reverse_cons
  rw [tokens]
  exact old.concat new

/-- A step adds at most one token, and changes at most the token before it. -/
theorem Steps.tokens_eq (steps : s.Steps x next) :
    next.tokens = s.tokens ∨
      ∃ u, next.tokens = u :: s.tokens ∨ next.tokens = u :: s.tokens.modifyHead Token.retract := by
  have turned : ∀ (t : Turn) p, ∃ u, (s.turn p t).tokens = u :: s.tokens ∨
      (s.turn p t).tokens = u :: s.tokens.modifyHead Token.retract := by
    intro t p
    refine ⟨⟨t.role, p⟩, ?_⟩
    cases retracts : t.retracts with
    | false => exact .inl (by simp [State.turn, retracts])
    | true => exact .inr (by simp [State.turn, retracts])
  cases steps with
  | trivia => exact .inl rfl
  | turn => exact .inr (turned _ _)
  | opened | closed => exact .inr ⟨_, .inl rfl⟩
  | semicolon => exact .inr (turned (s.statement.leave (.punctuation .semicolon)) x.position)

/-- The tokens `old` are still there. Behind them, the newest of them may have been retracted. -/
def Keeps (old : List Token) (s : State) : Prop :=
  (∃ new, s.tokens = new ++ old) ∨ ∃ u new, s.tokens = u :: new ++ old.modifyHead Token.retract

/-- Steps keep the tokens that are there, but for the role of the newest. -/
theorem Steps.keeps {old : List Token} (keeps : Keeps old s) (steps : s.Steps x next) :
    Keeps old next := by
  rcases steps.tokens_eq with same | ⟨u, pushed | retracted⟩
  · rwa [Keeps, same]
  · rcases keeps with ⟨new, tokens⟩ | ⟨v, new, tokens⟩
    · exact .inl ⟨u :: new, by rw [pushed, tokens, List.cons_append]⟩
    · exact .inr ⟨u, v :: new, by rw [pushed, tokens, List.cons_append, List.cons_append,
        List.cons_append]⟩
  · -- Only while nothing stands behind `old`, the token that is retracted belongs to it.
    rcases keeps with ⟨_ | ⟨v, new⟩, tokens⟩ | ⟨v, new, tokens⟩
    · exact .inr ⟨u, [], by rw [retracted, tokens, List.nil_append]; rfl⟩
    · exact .inl ⟨u :: v.retract :: new, by rw [retracted, tokens]; rfl⟩
    · exact .inr ⟨u, v.retract :: new, by rw [retracted, tokens]; rfl⟩

theorem read_keeps_tokens (read : s.read xs = .ok last) : Keeps s.tokens last :=
  read_keeps (fun keeps steps => steps.keeps keeps) read (.inl ⟨[], rfl⟩)

end State

/-- Tokens in the order of the text, and those that they have become further on in the text. A
`record` at the end may have lost its role as a keyword. -/
inductive Token.Grow : List Token → List Token → Prop
  | appended (ts new : List Token) : Grow ts (ts ++ new)
  | retracted (ts : List Token) (p : Position) (new : List Token) :
      Grow (ts ++ [⟨.keyword (.declares .recordDecl), p⟩]) (ts ++ ⟨.identifier "record", p⟩ :: new)

theorem State.Keeps.grow {old : List Token} {s : State} (keeps : Keeps old s) :
    Token.Grow old.reverse s.tokens.reverse := by
  rcases keeps with ⟨new, tokens⟩ | ⟨u, new, tokens⟩
  · rw [tokens, List.reverse_append]
    exact .appended _ _
  · rw [tokens, List.reverse_append]
    cases old with
    | nil => exact .appended _ _
    | cons t ts =>
      rw [List.modifyHead_cons, List.reverse_cons, List.reverse_cons, List.append_assoc]
      unfold Token.retract
      split
      · next record =>
        obtain ⟨role, p⟩ := t
        obtain rfl : role = .keyword (.declares .recordDecl) := record
        exact .retracted _ _ _
      · rw [← List.append_assoc]
        exact .appended _ _

/-- Reading on changes no token but a `record` that was the last one, and not even that one if the
text could have ended behind it. -/
theorem tokens_grow (front back : List Lexeme) :
    (∀ last, State.initial.read (front ++ back) = .ok last →
      ∃ mid, State.initial.read front = .ok mid ∧
        Token.Grow mid.tokens.reverse last.tokens.reverse) ∧
    ∀ ts us, classify front = .ok ts → classify (front ++ back) = .ok us → ts <+: us := by
  constructor
  · intro last read
    obtain ⟨mid, readFront, readBack⟩ := State.read_append_eq_ok.mp read
    exact ⟨mid, readFront, (State.read_keeps_tokens readBack).grow⟩
  · intro ts us classified classifiedAll
    obtain ⟨mid, readFront, closed, rfl⟩ := classify_eq_ok.mp classified
    obtain ⟨last, read, _, rfl⟩ := classify_eq_ok.mp classifiedAll
    obtain ⟨_, same, readBack⟩ := State.read_append_eq_ok.mp read
    obtain rfl := Except.ok.inj (readFront.symm.trans same)
    have region := (State.open?_eq_none.mp closed).1
    obtain ⟨new, tokens, _⟩ := State.read_settled (State.settled_of_openRegion? region) readBack
    rw [tokens, List.reverse_append]
    exact List.prefix_append _ _

/-- A `record` is retracted by `=`, and stays so behind the semicolon. -/
theorem tokens_grow_record :
    ∃ record equals semicolon : Lexeme,
      record = ⟨.word, "record", .start 0⟩ ∧ equals = ⟨.punctuation, "=", .start 6⟩ ∧
      semicolon = ⟨.punctuation, ";", .start 7⟩ ∧
      (∃ last, State.initial.read ([record] ++ [equals]) = .ok last ∧
        ∃ mid, State.initial.read [record] = .ok mid ∧
          Token.Grow mid.tokens.reverse last.tokens.reverse) ∧
      ∃ ts us, classify [record, equals] = .ok ts ∧
        classify ([record, equals] ++ [semicolon]) = .ok us ∧ ts <+: us := by
  have grow := (tokens_grow [⟨.word, "record", .start 0⟩] [⟨.punctuation, "=", .start 6⟩]).1
  have settle := (tokens_grow [⟨.word, "record", .start 0⟩, ⟨.punctuation, "=", .start 6⟩]
    [⟨.punctuation, ";", .start 7⟩]).2
  exact ⟨_, _, _, rfl, rfl, rfl, ⟨_, rfl, grow _ rfl⟩, _, _, rfl, rfl, settle _ _ rfl rfl⟩

end Highlight
