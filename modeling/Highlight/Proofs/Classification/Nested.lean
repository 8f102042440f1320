import Highlight.Proofs.Classification.Coverage
import Highlight.Proofs.Classification.Failure
import Highlight.Proofs.Classification.Retraction

/-! A piece that can be classified by itself is classified alike behind any other text, as long as
it starts a statement and is not the body of an enumeration. -/
namespace Highlight

/-- The event among the events of a text in which `depth` more scopes are open. -/
def Event.deepen (depth : Nat) : Event → Event
  | .phase source target => .phase source target
  | .opened scope inner => .opened scope (inner + depth)
  | .closed scope inner => .closed scope (inner + depth)

def Nesting.within (outer inner : Nesting) : Nesting :=
  ⟨inner.scopes ++ outer.scopes⟩

namespace Nesting

theorem depth_within (outer inner : Nesting) :
    (outer.within inner).depth = inner.depth + outer.depth :=
  List.length_append

theorem pop?_within {inner : Nesting} (popped : inner.pop? = some (scope, rest)) (outer : Nesting) :
    (outer.within inner).pop? = some (scope, outer.within rest) := by
  obtain ⟨_ | ⟨s, scopes⟩⟩ := inner
  · contradiction
  · obtain ⟨rfl, rfl⟩ := Prod.mk.inj (Option.some.inj popped)
    rfl

theorem within_empty (inner : Nesting) : empty.within inner = inner := by
  rw [within, empty, List.append_nil]

theorem inEnumBody_within {outer : Nesting} (outside : outer.inEnumBody = false)
    (inner : Nesting) : (outer.within inner).inEnumBody = inner.inEnumBody := by
  obtain ⟨_ | ⟨s, scopes⟩⟩ := inner
  · exact outside
  · rfl

end Nesting

namespace Statement

theorem word_congr (s : Statement) {a b : Surroundings} (body : a.inEnumBody = b.inEnumBody)
    (w : String) (p : Position) : s.word a w p = s.word b w p := by
  cases s with
  | start => simp only [word, leadingWord, body]
  | _ => rfl

/-- A mark is read by the last role and by whether members are declared, and at the start of a
statement by the latter alone. -/
theorem mark_congr (s : Statement) {a b : Surroundings} (body : a.inEnumBody = b.inEnumBody)
    (last : s.phase = .start ∨ a.last? = b.last?) (m : Punctuation) (p : Position) :
    s.mark a m p = s.mark b m p := by
  cases m
  case lessThan =>
    rcases last with fresh | last
    · cases s <;> first | rfl | contradiction
    · simp only [mark, lessThan, last]
  case comma => simp only [mark, comma, body]
  all_goals rfl

/-- A turn depends on the scope, and on the token in front unless the statement is at its start. -/
theorem Takes.congr (taken : Takes s a x t) (body : a.inEnumBody = b.inEnumBody)
    (last : s.phase = .start ∨ a.last? = b.last?) : Takes s b x t := by
  cases taken with
  | word kind =>
    rw [word_congr s body]
    exact .word kind
  | literal kind => exact .literal kind
  | mark kind found inside =>
    rw [mark_congr s body last]
    exact .mark kind found inside

theorem retractable_of_phase {s : Statement} (fresh : s.phase = .start) :
    s.retractable = false := by
  cases s with
  | start => rfl
  | _ => contradiction

end Statement

namespace State

variable {outer s next last : State} {x : Lexeme} {xs : List Lexeme} {t : Turn}

/-- The state `s` of a piece, behind what `outer` has read. -/
def within (outer s : State) : State where
  tokens := s.tokens ++ outer.tokens
  nesting := outer.nesting.within s.nesting
  statement := s.statement
  events := s.events.map (Event.deepen outer.nesting.depth) ++ outer.events

/-- As long as the piece has no tokens, its first statement is at its start. -/
def Begun (s : State) : Prop :=
  s.tokens = [] → s.statement.phase = .start

theorem Steps.begun (begun : s.Begun) (steps : s.Steps x next) : next.Begun := by
  cases steps with
  | trivia => exact begun
  | _ => exact nofun

theorem last?_within (begun : s.Begun) (outer : State) :
    s.statement.phase = .start ∨ s.last? = (outer.within s).last? := by
  cases tokens : s.tokens with
  | nil => exact .inl (begun tokens)
  | cons u us => exact .inr (by simp [last?, within, tokens])

/-- A turn of the piece is the same turn behind what was read outside. -/
theorem turn_within (begun : s.Begun)
    (retractable : t.retracts = true → s.statement.retractable = true) (outer : State)
    (p : Position) : (outer.within s).turn p t = outer.within (s.turn p t) := by
  have tokens : t.retracts = true →
      (s.tokens ++ outer.tokens).modifyHead Token.retract =
        s.tokens.modifyHead Token.retract ++ outer.tokens := by
    intro retracts
    cases tokens : s.tokens with
    | nil =>
      have naming := retractable retracts
      rw [Statement.retractable_of_phase (begun tokens)] at naming
      contradiction
    | cons u us => rfl
  cases retracts : t.retracts <;> cases enters : t.enters <;>
    simp [State.turn, within, retracts, enters, tokens, Event.deepen]

/-- Each step of the piece is a step behind the other text. -/
theorem Steps.within (outside : outer.nesting.inEnumBody = false) (begun : s.Begun)
    (steps : s.Steps x next) : (outer.within s).Steps x (outer.within next) := by
  cases steps with
  | trivia trivia => exact .trivia trivia
  | turn taken =>
    rw [← turn_within begun taken.retractable]
    have body := Nesting.inEnumBody_within outside s.nesting
    exact .turn (taken.congr body.symm (last?_within begun outer))
  | opened kind found closed =>
    have depth : s.nesting.depth + 1 + outer.nesting.depth =
        (outer.nesting.within s.nesting).depth + 1 := by
      rw [Nesting.depth_within]
      omega
    have step := Steps.opened (s := outer.within s) kind found closed
    simp only [State.within, List.map_cons, Event.deepen, depth]
    exact step
  | @closed scope rest kind found closed popped =>
    have step := Steps.closed (s := outer.within s) kind found closed
      (Nesting.pop?_within popped outer.nesting)
    rw [Nesting.depth_within] at step
    exact step
  | semicolon kind found closed =>
    have retracts := Statement.retracts_leave s.statement (.punctuation .semicolon)
    have turn := turn_within begun (fun taken => retracts.symm.trans taken) outer x.position
    have step := Steps.semicolon (s := outer.within s) kind found closed
    have same : (outer.within s).statement = s.statement := rfl
    rw [same, turn] at step
    exact step

/-- A piece is read behind `outer` as it is read alone. -/
theorem read_within (outside : outer.nesting.inEnumBody = false) (begun : s.Begun)
    (read : s.read xs = .ok last) : (outer.within s).read xs = .ok (outer.within last) := by
  induction xs generalizing s with
  | nil =>
    cases read
    rfl
  | cons x xs ih =>
    unfold State.read at read ⊢
    split at read
    · contradiction
    · next stepped =>
      have steps := steps_of_step stepped
      rw [step_of_steps (steps.within outside begun)]
      exact ih (steps.begun begun) read

/-- What is wrong with a lexeme does not depend on the tokens in front. -/
theorem Fails.congr {s' : State} (fails : s.Fails x e) (statement : s'.statement = s.statement)
    (nesting : s'.nesting = s.nesting) : s'.Fails x e := by
  cases fails with
  | unrecognized kind unknown => exact .unrecognized kind unknown
  | unclosed found ends opened => exact .unclosed found ends (statement ▸ opened)
  | openRegion found opened => exact .openRegion found (statement ▸ opened)
  | unbalanced found closed outermost =>
    exact .unbalanced found (statement ▸ closed) (nesting ▸ outermost)

/-- Behind a text that leaves no scope open, the piece fails where it fails by itself. -/
theorem read_error_within {halt : Halt} (outside : outer.nesting = .empty) (begun : s.Begun)
    (failed : s.read xs = .error halt) :
    ∃ state, (outer.within s).read xs = .error ⟨state, halt.error⟩ := by
  obtain ⟨front, x, back, rfl, read, stuck⟩ := read_eq_error.mp failed
  have noEnum : outer.nesting.inEnumBody = false := by
    rw [outside]
    rfl
  have nesting : (outer.within halt.state).nesting = halt.state.nesting := by
    rw [within, outside, Nesting.within_empty]
  refine ⟨outer.within halt.state, read_eq_error.mpr ⟨front, x, back, rfl, ?_, ?_⟩⟩
  · exact read_within noEnum begun read
  · exact step_of_fails ((fails_of_step stuck).congr rfl nesting)

theorem within_initial (fresh : outer.statement = .empty) : outer.within initial = outer := by
  obtain ⟨tokens, nesting, statement, events⟩ := outer
  obtain rfl : statement = .empty := fresh
  rfl

/-- A piece that is complete by itself is read behind other text, and leaves nothing open. -/
theorem exists_read_behind (fresh : outer.statement = .empty)
    (outside : outer.nesting.inEnumBody = false) (classified : classify xs = .ok ts) :
    ∃ last, outer.read xs = .ok last ∧ last.tokens.reverse = outer.tokens.reverse ++ ts ∧
      last.nesting = outer.nesting ∧ last.statement.openRegion? = none := by
  obtain ⟨s, readInner, closed, rfl⟩ := classify_eq_ok.mp classified
  obtain ⟨region, nesting⟩ := open?_eq_none.mp closed
  have run := read_within outside (fun _ => rfl) readInner
  rw [within_initial fresh] at run
  refine ⟨outer.within s, run, List.reverse_append, ?_, region⟩
  simp [State.within, nesting, Nesting.within, Nesting.empty]

end State

/-- The piece gets the tokens `ts` behind `front`, after which the state is `outer`. -/
structure ClassifiedBehind (front piece : List Lexeme) (outer : State) (ts : List Token) :
    Prop where
  read : ∃ last, outer.read piece = .ok last ∧
    last.tokens.reverse = outer.tokens.reverse ++ ts ∧ last.nesting = outer.nesting
  among : ∀ back us, classify (front ++ piece ++ back) = .ok us →
    (us.drop (significant front).length).take (significant piece).length = ts

/-- Nothing behind a piece changes its tokens, once none of its regions is open. -/
theorem take_drop_of_read (read : State.initial.read front = .ok outer)
    (readPiece : outer.read piece = .ok last)
    (tokens : last.tokens.reverse = outer.tokens.reverse ++ ts)
    (region : last.statement.openRegion? = none)
    (size : ts.length = (significant piece).length)
    (classified : classify (front ++ piece ++ back) = .ok us) :
    (us.drop (significant front).length).take (significant piece).length = ts := by
  obtain ⟨s, readAll, _, rfl⟩ := classify_eq_ok.mp classified
  obtain ⟨mid, readMid, readBack⟩ := State.read_append_eq_ok.mp readAll
  have same : State.initial.read (front ++ piece) = .ok last :=
    State.read_append_eq_ok.mpr ⟨outer, read, readPiece⟩
  obtain rfl := Except.ok.inj (readMid.symm.trans same)
  obtain ⟨new, settled, _⟩ := State.read_settled (State.settled_of_openRegion? region) readBack
  have frontSize : outer.tokens.reverse.length = (significant front).length :=
    (State.read_covered read).length_eq
  rw [settled, List.reverse_append, tokens, List.append_assoc, ← frontSize, List.drop_left,
    ← size, List.take_left]

/-- A piece that is complete by itself may stand behind any text that ends with a statement, outside
of the body of an enumeration. -/
theorem classifiedBehind_of_classify (read : State.initial.read front = .ok outer)
    (fresh : outer.statement = .empty) (outside : outer.nesting.inEnumBody = false)
    (classified : classify piece = .ok ts) : ClassifiedBehind front piece outer ts := by
  obtain ⟨last, readPiece, tokens, nesting, region⟩ :=
    State.exists_read_behind fresh outside classified
  obtain ⟨s, readInner, _, rfl⟩ := classify_eq_ok.mp classified
  have size := (State.read_covered readInner).length_eq
  exact ⟨⟨last, readPiece, tokens, nesting⟩,
    fun _ _ => take_drop_of_read read readPiece tokens region size⟩

/-- A `record` that is retracted, as the first word behind an open class. -/
theorem classifiedBehind_record_in_class :
    ∃ front piece outer ts,
      front =
        [⟨.word, "class", .start 0⟩, ⟨.word, "C", .start 0⟩, ⟨.punctuation, "\x7b", .start 0⟩] ∧
      piece =
        [⟨.word, "record", .start 0⟩, ⟨.punctuation, "=", .start 0⟩,
          ⟨.punctuation, "\x7b", .start 0⟩, ⟨.punctuation, "\x7d", .start 0⟩] ∧
      State.initial.read front = .ok outer ∧ outer.statement = .empty ∧
      outer.nesting.inEnumBody = false ∧ classify piece = .ok ts ∧
      ClassifiedBehind front piece outer ts :=
  ⟨_, _, _, _, rfl, rfl, rfl, rfl, rfl, rfl, classifiedBehind_of_classify rfl rfl rfl rfl⟩

end Highlight
