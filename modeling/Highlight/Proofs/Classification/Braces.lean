import Highlight.Proofs.Brackets
import Highlight.Proofs.Classification.Failure
import Highlight.Proofs.Classification.Retraction
import Highlight.Proofs.Statement.Transition
import Highlight.Trace

/-! Braces and scopes: the open scopes are those of the braces that are not matched yet, in tokens
braces are balanced, and each scope that is closed is the one that the matching brace opened. -/
namespace Highlight

def Punctuation.brace? : Punctuation → Option DyckStep
  | .openBrace => some .U
  | .closeBrace => some .D
  | _ => none

def Lexeme.brace? (x : Lexeme) : Option DyckStep :=
  x.mark?.bind Punctuation.brace?

def Token.brace? (t : Token) : Option DyckStep :=
  t.role.punctuation?.bind Punctuation.brace?

def Event.brace? : Event → Option DyckStep
  | .phase _ _ => none
  | .opened _ _ => some .U
  | .closed _ _ => some .D

theorem Punctuation.brace?_of_inside {m : Punctuation} (inside : m.endsStatement = false) :
    m.brace? = none := by
  cases m with
  | openBrace | closeBrace => contradiction
  | _ => rfl

theorem Lexeme.brace?_of_mark? {x : Lexeme} (found : x.mark? = some m) : x.brace? = m.brace? := by
  rw [brace?, found]
  rfl

theorem Lexeme.mark?_of_closing {x : Lexeme} (closing : x.brace? = some .D) :
    x.mark? = some .closeBrace := by
  obtain ⟨m, found, brace⟩ := Option.bind_eq_some_iff.mp closing
  cases m with
  | closeBrace => exact found
  | _ => contradiction

theorem Lexeme.brace?_of_inside {x : Lexeme} (inside : x.endsStatement = false) :
    x.brace? = none := by
  cases found : x.mark? with
  | none => rw [brace?, found]; rfl
  | some m =>
    rw [endsStatement, found] at inside
    rw [brace?_of_mark? found]
    exact Punctuation.brace?_of_inside inside

theorem Token.brace?_retract (t : Token) : t.retract.brace? = t.brace? := by
  rw [brace?, punctuation?_retract]
  rfl

namespace Nesting

/-- The events that opened the scopes, innermost first. -/
def openings (nesting : Nesting) : List Event :=
  go nesting.scopes
where
  go : List Scope → List Event
    | [] => []
    | scope :: scopes => .opened scope (scopes.length + 1) :: go scopes

theorem openings_push (nesting : Nesting) (scope : Scope) :
    (nesting.push scope).openings = .opened scope (nesting.depth + 1) :: nesting.openings := rfl

theorem scopes_of_pop? {nesting outer : Nesting} (popped : nesting.pop? = some (scope, outer)) :
    nesting.scopes = scope :: outer.scopes := by
  obtain ⟨_ | ⟨s, scopes⟩⟩ := nesting
  · contradiction
  · obtain ⟨rfl, rfl⟩ := Prod.mk.inj (Option.some.inj popped)
    rfl

theorem pop?_eq_none {nesting : Nesting} : nesting.pop? = none ↔ nesting.scopes = [] := by
  obtain ⟨_ | ⟨s, scopes⟩⟩ := nesting <;> simp [pop?]

theorem openings_of_pop? {nesting outer : Nesting} (popped : nesting.pop? = some (scope, outer)) :
    nesting.openings = .opened scope (outer.depth + 1) :: outer.openings := by
  rw [openings, scopes_of_pop? popped]
  rfl

end Nesting

/-- A scope is closed as it was opened, behind balanced events and one level further out. -/
def Event.ClosesMatch (before : List Event) : Event → Prop
  | .closed scope depth => ∃ earlier between,
      before = earlier ++ .opened scope (depth + 1) :: between ∧ Balanced Event.brace? between
  | _ => True

namespace State

variable {s next : State} {x : Lexeme} {xs : List Lexeme}

theorem brace?_of_turn {t : Turn} (silent : Token.brace? ⟨t.role, p⟩ = none) :
    (s.turn p t).tokens.filterMap Token.brace? = s.tokens.filterMap Token.brace? := by
  rw [filterMap_turn Token.brace?_retract, List.filterMap_cons_none silent]
  rfl

/-- A token is a brace when its lexeme is. -/
theorem Steps.braces (steps : s.Steps x next) :
    next.tokens.filterMap Token.brace? =
      x.brace?.toList ++ s.tokens.filterMap Token.brace? := by
  cases steps with
  | trivia trivia =>
    rw [Lexeme.brace?, Lexeme.mark?_of_isTrivia trivia]
    rfl
  | @turn t taken =>
    have silent : Token.brace? ⟨t.role, x.position⟩ = none := by
      unfold Token.brace?
      cases role : t.role.punctuation? with
      | none => rfl
      | some m => exact Punctuation.brace?_of_inside (taken.inside role)
    rw [brace?_of_turn silent, Lexeme.brace?_of_inside taken.endsStatement]
    rfl
  | opened kind found | closed kind found =>
    rw [Lexeme.brace?_of_mark? (Lexeme.mark?_eq_some.mpr ⟨kind, found⟩)]
    rfl
  | semicolon kind found =>
    have silent : Token.brace?
        ⟨(s.statement.leave (.punctuation .semicolon)).role, x.position⟩ = none := by
      rw [Statement.role_leave]
      rfl
    rw [Lexeme.brace?_of_mark? (Lexeme.mark?_eq_some.mpr ⟨kind, found⟩)]
    exact brace?_of_turn silent

/-- The braces of the tokens are those of the lexemes. -/
theorem read_braces (read : State.initial.read xs = .ok s) :
    s.tokens.reverse.filterMap Token.brace? = xs.filterMap Lexeme.brace? := by
  rw [List.filterMap_reverse, List.reverse_eq_iff]
  refine read_initial (P := fun xs s =>
    s.tokens.filterMap Token.brace? = (xs.filterMap Lexeme.brace?).reverse) ?_ read rfl
  intro ys s x next same steps
  rw [steps.braces, same, List.filterMap_append, List.reverse_append]
  cases found : x.brace? <;> simp [found]

inductive ScopeStep (s : State) (x : Lexeme) (next : State) : Prop
  | inside (lexeme : x.brace? = none) (nesting : next.nesting = s.nesting)
      (events : next.events = s.events ∨
        ∃ source target, next.events = .phase source target :: s.events)
  | opened (scope : Scope) (lexeme : x.brace? = some .U) (opening : scope.opening = x.position)
      (nesting : next.nesting = s.nesting.push scope)
      (events : next.events = .opened scope (s.nesting.depth + 1) :: s.events)
  | closed (scope : Scope) (lexeme : x.brace? = some .D)
      (popped : s.nesting.pop? = some (scope, next.nesting))
      (events : next.events = .closed scope next.nesting.depth :: s.events)

theorem events_turn (s : State) (p : Position) (t : Turn) :
    (s.turn p t).events = s.events ∨
      ∃ source target, (s.turn p t).events = .phase source target :: s.events := by
  unfold State.turn
  dsimp only
  split
  · exact .inr ⟨_, _, rfl⟩
  · exact .inl rfl

/-- A step opens a scope at an opening brace, closes one at a closing brace, and keeps them all
elsewhere. -/
theorem Steps.scopeStep (steps : s.Steps x next) : s.ScopeStep x next := by
  cases steps with
  | trivia trivia =>
    have silent : x.brace? = none := by
      rw [Lexeme.brace?, Lexeme.mark?_of_isTrivia trivia]
      rfl
    exact .inside silent rfl (.inl rfl)
  | @turn t taken =>
    exact .inside (Lexeme.brace?_of_inside taken.endsStatement) rfl (events_turn s x.position t)
  | opened kind found =>
    have opening : (s.statement.scope x.position).opening = x.position := by
      unfold Statement.scope
      split <;> rfl
    exact .opened _ (Lexeme.brace?_of_mark? (Lexeme.mark?_eq_some.mpr ⟨kind, found⟩)) opening
      rfl rfl
  | closed kind found closed popped =>
    exact .closed _ (Lexeme.brace?_of_mark? (Lexeme.mark?_eq_some.mpr ⟨kind, found⟩)) popped rfl
  | semicolon kind found =>
    exact .inside (Lexeme.brace?_of_mark? (Lexeme.mark?_eq_some.mpr ⟨kind, found⟩)) rfl
      (events_turn s x.position (s.statement.leave (.punctuation .semicolon)))

/-- The open scopes, and the lexemes that have opened them. -/
structure ScopesKept (xs : List Lexeme) (s : State) : Prop where
  openings : s.nesting.scopes.map Scope.opening =
    (unmatched Lexeme.brace? xs).map Lexeme.position
  layered : Layered (Balanced Lexeme.brace?) (Balanced Lexeme.brace?)
    (unmatched Lexeme.brace? xs) xs

theorem ScopeStep.openings {opens : List Lexeme} (step : s.ScopeStep x next)
    (openings : s.nesting.scopes.map Scope.opening = opens.map Lexeme.position) :
    next.nesting.scopes.map Scope.opening =
      (matchNext Lexeme.brace? opens x).map Lexeme.position := by
  unfold matchNext
  cases step with
  | inside lexeme nesting =>
    rw [lexeme, nesting]
    exact openings
  | opened scope lexeme opening nesting =>
    rw [lexeme, nesting]
    dsimp only
    rw [List.map_cons, ← openings, ← opening]
    rfl
  | closed scope lexeme popped =>
    rw [Nesting.scopes_of_pop? popped] at openings
    rw [lexeme]
    dsimp only
    rw [List.map_tail, ← openings]
    rfl

theorem ScopeStep.scopesKept (kept : ScopesKept xs s) (step : s.ScopeStep x next) :
    ScopesKept (xs ++ [x]) next := by
  have nonempty : x.brace? = some .D → unmatched Lexeme.brace? xs ≠ [] := by
    intro closing none_
    have scopes := kept.openings
    rw [none_, List.map_nil, List.map_eq_nil_iff] at scopes
    cases step with
    | inside lexeme => rw [lexeme] at closing; contradiction
    | opened _ lexeme => rw [lexeme] at closing; contradiction
    | closed _ _ popped => rw [Nesting.scopes_of_pop? popped] at scopes; contradiction
  constructor
  · rw [unmatched_concat]
    exact step.openings kept.openings
  · rw [unmatched_concat]
    exact kept.layered.next (fun a member => (mem_unmatched member).2) nonempty

theorem read_scopesKept (read : State.initial.read xs = .ok s) : ScopesKept xs s :=
  read_initial (fun kept steps => steps.scopeStep.scopesKept kept) read ⟨rfl, .bottom .nil⟩

theorem ScopesKept.innermost (kept : ScopesKept xs s) (top : s.nesting.innermost? = some scope) :
    ∃ x outer, unmatched Lexeme.brace? xs = x :: outer ∧ x.position = scope.opening := by
  obtain ⟨scopes, same⟩ := List.head?_eq_some_iff.mp top
  have openings := kept.openings
  rw [same] at openings
  obtain ⟨x, outer, innermost, here, _⟩ := List.map_eq_cons_iff.mp openings.symm
  exact ⟨x, outer, innermost, here⟩

/-- The events of open scopes are not matched, all others are. -/
structure EventsKept (s : State) : Prop where
  layered : Layered (Balanced Event.brace?) (Balanced Event.brace?) s.nesting.openings
    s.events.reverse
  closes : EachBehind Event.ClosesMatch s.events.reverse

/-- With each step the events of the scopes stay balanced, but for those of open scopes. -/
theorem ScopeStep.eventsKept (kept : EventsKept s) (step : s.ScopeStep x next) :
    EventsKept next := by
  cases step with
  | inside lexeme nesting events =>
    rcases events with same | ⟨source, target, new⟩
    · exact ⟨by rw [nesting, same]; exact kept.layered, by rw [same]; exact kept.closes⟩
    · constructor
      · rw [nesting, new, List.reverse_cons]
        exact kept.layered.skip rfl
      · rw [new, List.reverse_cons]
        exact kept.closes.concat trivial
  | opened scope lexeme opening nesting events =>
    constructor
    · rw [nesting, events, Nesting.openings_push, List.reverse_cons]
      exact kept.layered.push .nil
    · rw [events, List.reverse_cons]
      exact kept.closes.concat trivial
  | closed scope lexeme popped events =>
    have layered := kept.layered
    rw [Nesting.openings_of_pop? popped] at layered
    obtain ⟨earlier, between, split, inside, closed⟩ :=
      layered.close (x := .closed scope next.nesting.depth) rfl rfl
    constructor
    · rw [events, List.reverse_cons]
      exact closed
    · rw [events, List.reverse_cons]
      exact kept.closes.concat ⟨earlier, between, split, inside⟩

theorem eventsKept_initial : EventsKept initial where
  layered := .bottom .nil
  closes := .nil

theorem read_eventsKept (read : State.initial.read xs = .ok s) : EventsKept s :=
  read_keeps (fun kept steps => steps.scopeStep.eventsKept kept) read eventsKept_initial

end State

theorem Statement.fault_ne_of_openRegion? {s : Statement} (opened : s.openRegion? = some e) :
    e.fault ≠ .unbalancedBrace := by
  obtain ⟨_, _, rfl | ⟨_, rfl⟩⟩ := exists_anchor opened <;> nofun

theorem State.fault_ne_of_open? {s : State} (opened : s.open? = some e) :
    e.fault ≠ .unbalancedBrace := by
  unfold open? at opened
  cases region : s.statement.openRegion? with
  | some f =>
    rw [region] at opened
    obtain rfl := Option.some.inj opened
    exact Statement.fault_ne_of_openRegion? region
  | none =>
    rw [region] at opened
    obtain ⟨scope, _, rfl⟩ := Option.map_eq_some_iff.mp opened
    nofun

def TraceEntry.event? : TraceEntry → Option Event
  | .event e => some e
  | _ => none

/-- The last state of a run, which stands in front of the error if there is one. -/
def State.reached (s : State) (xs : List Lexeme) : State :=
  match s.read xs with
  | .ok last => last
  | .error halt => halt.state

theorem State.reached_cons (s : State) (x : Lexeme) (xs : List Lexeme) :
    s.reached (x :: xs) =
      match s.step x with
      | .error _ => s
      | .ok next => next.reached xs := by
  rw [reached, read]
  cases s.step x <;> rfl

theorem State.exists_read_reached (xs : List Lexeme) :
    ∃ front, State.initial.read front = .ok (State.initial.reached xs) := by
  unfold reached
  cases found : State.initial.read xs with
  | ok last => exact ⟨xs, found⟩
  | error halt =>
    obtain ⟨front, _, _, _, read, _⟩ := State.read_eq_error.mp found
    exact ⟨front, read⟩

/-- The trace of a classification has the events of the last state that is reached. -/
theorem events_trace (xs : List Lexeme) :
    (traceClassification xs).1.filterMap TraceEntry.event? =
      (State.initial.reached xs).events.reverse := by
  have events : ∀ es : List Event, (es.map TraceEntry.event).filterMap TraceEntry.event? = es := by
    intro es
    rw [List.filterMap_map]
    exact List.filterMap_some
  unfold traceClassification State.reached
  cases found : classification xs with
  | ok s =>
    rw [(classification_eq_ok.mp found).1]
    exact events s.events.reverse
  | error halt =>
    simp only [List.cons_append, List.filterMap_cons, List.filterMap_append, TraceEntry.event?,
      events, List.filterMap_nil, List.append_nil]
    rcases classification_eq_error.mp found with failed | ⟨read, _⟩
    · rw [failed]
    · rw [read]

/-- The events of a trace are those of a run, which may have stopped early. -/
theorem exists_read_trace (xs : List Lexeme) :
    ∃ front s, State.initial.read front = .ok s ∧
      (traceClassification xs).1.filterMap TraceEntry.event? = s.events.reverse := by
  obtain ⟨front, read⟩ := State.exists_read_reached xs
  exact ⟨front, _, read, events_trace xs⟩

/-- How scopes follow the braces of `xs`. -/
structure ScopesMatchBraces (xs : List Lexeme) : Prop where
  openings : ∀ front back s, xs = front ++ back → State.initial.read front = .ok s →
    s.nesting.scopes.map Scope.opening =
      (unmatched Lexeme.brace? front).map Lexeme.position
  balanced : ∀ ts, classify xs = .ok ts → Balanced Token.brace? ts
  unbalanced : ∀ p, classify xs = .error ⟨.unbalancedBrace, p⟩ ↔
    ∃ front x back s, xs = front ++ x :: back ∧ State.initial.read front = .ok s ∧
      x.brace? = some .D ∧ unmatched Lexeme.brace? front = [] ∧
      s.statement.openRegion? = none ∧ x.position = p
  unterminated : ∀ s x outer, State.initial.read xs = .ok s → s.statement.openRegion? = none →
    unmatched Lexeme.brace? xs = x :: outer →
      ∃ scope, s.nesting.innermost? = some scope ∧
        classify xs = .error ⟨.unterminated (.scope scope.kind), x.position⟩
  closes : EachBehind Event.ClosesMatch
    ((traceClassification xs).1.filterMap TraceEntry.event?)

/-- Where there are tokens, their braces are balanced. -/
theorem balanced_of_classify (classified : classify xs = .ok ts) : Balanced Token.brace? ts := by
  obtain ⟨s, read, closed, rfl⟩ := classify_eq_ok.mp classified
  have kept := State.read_scopesKept read
  have layered := kept.layered
  have scopes := kept.openings
  rw [(State.open?_eq_none.mp closed).2] at scopes
  rw [List.map_eq_nil_iff.mp scopes.symm] at layered
  obtain ⟨w, same⟩ := layered.balanced
  exact ⟨w, same.trans (State.read_braces read).symm⟩

/-- The error is an unbalanced brace exactly if a closing brace comes when no scope and no region is
open. -/
theorem classify_eq_unbalanced :
    classify xs = .error ⟨.unbalancedBrace, p⟩ ↔
      ∃ front x back s, xs = front ++ x :: back ∧ State.initial.read front = .ok s ∧
        x.brace? = some .D ∧ unmatched Lexeme.brace? front = [] ∧
        s.statement.openRegion? = none ∧ x.position = p := by
  have outermost_iff : ∀ {front s}, State.initial.read front = .ok s →
      (s.nesting.pop? = none ↔ unmatched Lexeme.brace? front = []) := by
    intro front s read
    rw [Nesting.pop?_eq_none, ← List.map_eq_nil_iff, (State.read_scopesKept read).openings,
      List.map_eq_nil_iff]
  rw [classify_eq_error]
  constructor
  · -- What a statement or a scope leaves open is never reported as an unbalanced brace.
    rintro ⟨front, rest, rfl, fails⟩
    cases fails with
    | @lexeme x _ back s read stuck =>
      cases State.step_eq_error.mp stuck with
      | unclosed _ _ opened =>
        have region := Statement.openRegion?_of_unclosed? opened
        exact absurd rfl (Statement.fault_ne_of_openRegion? region)
      | openRegion _ opened => exact absurd rfl (Statement.fault_ne_of_openRegion? opened)
      | unbalanced found closed outermost =>
        exact ⟨front, x, back, s, rfl, read, Lexeme.brace?_of_mark? found,
          (outermost_iff read).mp outermost, closed, rfl⟩
    | finish s read opened => exact absurd rfl (State.fault_ne_of_open? opened)
  · rintro ⟨front, x, back, s, rfl, read, closing, matched, closed, rfl⟩
    refine ⟨front, x :: back, rfl, .lexeme s read (State.step_eq_error.mpr ?_)⟩
    exact .unbalanced (Lexeme.mark?_of_closing closing) closed ((outermost_iff read).mpr matched)

/-- At the end of a text that left a brace open, the error names the scope of the innermost such
brace. -/
theorem classify_eq_unterminated (read : State.initial.read xs = .ok s)
    (closed : s.statement.openRegion? = none)
    (innermost : unmatched Lexeme.brace? xs = x :: outer) :
    ∃ scope, s.nesting.innermost? = some scope ∧
      classify xs = .error ⟨.unterminated (.scope scope.kind), x.position⟩ := by
  have openings := (State.read_scopesKept read).openings
  rw [innermost] at openings
  obtain ⟨scope, scopes, same, opening, _⟩ := List.map_eq_cons_iff.mp openings
  have top : s.nesting.innermost? = some scope := by
    rw [Nesting.innermost?, same]
    rfl
  refine ⟨scope, top, classify_eq_error.mpr ⟨xs, [], (List.append_nil xs).symm, .finish s read ?_⟩⟩
  rw [State.open?, closed, top, ← opening]
  rfl

/-- Scopes are opened and closed where braces are, whatever the lexemes and even if they do not
classify. -/
theorem scopesMatchBraces (xs : List Lexeme) : ScopesMatchBraces xs where
  openings := fun _ _ _ _ read => (State.read_scopesKept read).openings
  balanced := fun _ classified => balanced_of_classify classified
  unbalanced := fun _ => classify_eq_unbalanced
  unterminated := fun _ _ _ read closed innermost => classify_eq_unterminated read closed innermost
  closes := by
    obtain ⟨front, s, read, events⟩ := exists_read_trace xs
    rw [events]
    exact (State.read_eventsKept read).closes

/-- An enumeration whose brace is not closed, and one whose brace is closed twice. -/
theorem scopesMatchBraces_enum :
    ∃ xs ys : List Lexeme,
      xs =
        [⟨.word, "enum", .start 0⟩, ⟨.word, "E", .start 1⟩, ⟨.punctuation, "\x7b", .start 2⟩] ∧
      ys = [⟨.punctuation, "\x7d", .start 3⟩, ⟨.punctuation, "\x7d", .start 4⟩] ∧
      classify xs = .error ⟨.unterminated (.scope (.body .enumDecl)), .start 2⟩ ∧
      classify (xs ++ ys) = .error ⟨.unbalancedBrace, .start 4⟩ := by
  refine ⟨_, _, rfl, rfl, ?_, ?_⟩
  · obtain ⟨scope, top, failed⟩ := (scopesMatchBraces
      [⟨.word, "enum", .start 0⟩, ⟨.word, "E", .start 1⟩,
        ⟨.punctuation, "\x7b", .start 2⟩]).unterminated _ _ [] rfl rfl rfl
    obtain rfl := Option.some.inj top
    exact failed
  · refine (scopesMatchBraces _).unbalanced _ |>.mpr ?_
    exact ⟨[⟨.word, "enum", .start 0⟩, ⟨.word, "E", .start 1⟩, ⟨.punctuation, "\x7b", .start 2⟩,
      ⟨.punctuation, "\x7d", .start 3⟩], ⟨.punctuation, "\x7d", .start 4⟩, [], _, rfl, rfl, rfl,
      rfl, rfl, rfl⟩

end Highlight
