import Highlight.Proofs.Classification.Braces
import Highlight.Proofs.Classification.ParameterLists
import Highlight.Proofs.Statement.Phases

/-! The phases of the statements in a run. The log of a run has its events and the ends of its
statements. Between two ends each change starts from the phase that the one before has led to, some
phases are the last ones, and type parameters are listed once. -/
namespace Highlight

/-- What happens in a run besides giving roles. With an event stands the kind of the declaration in
front of it, and at a reset the statement ends. -/
inductive LogEntry
  | event (kind? : Option DeclKind) (e : Event)
  | reset
deriving DecidableEq, Repr

structure PhaseChange where
  kind? : Option DeclKind
  source : Phase
  target : Phase
deriving DecidableEq, Repr

def PhaseChange.lists (c : PhaseChange) : Bool :=
  c.source = .header && c.target = .typeParameters true

theorem PhaseChange.lists_iff {c : PhaseChange} :
    c.lists = true ↔ c.source = .header ∧ c.target = .typeParameters true := by
  simp [lists]

namespace LogEntry

def event? : LogEntry → Option Event
  | .event _ e => some e
  | .reset => none

def change? : LogEntry → Option PhaseChange
  | .event kind? (.phase source target) => some ⟨kind?, source, target⟩
  | _ => none

end LogEntry

namespace State

/-- The lexeme ends the statement: as a brace, as a semicolon, or as a comma behind a member of an
enumeration. -/
def resets (s : State) (x : Lexeme) : Bool :=
  x.endsStatement || x.mark? = some .comma && s.statement = .plain 0 && s.nesting.inEnumBody

def logged (s : State) (x : Lexeme) (next : State) : List LogEntry :=
  (next.events.reverse.drop s.events.length).map (.event s.statement.kind?) ++
    if s.resets x then [.reset] else []

/-- The log of a run, until a step fails. -/
def log (s : State) : List Lexeme → List LogEntry
  | [] => []
  | x :: xs =>
    match s.step x with
    | .error _ => []
    | .ok next => s.logged x next ++ next.log xs

end State

def changes (log : List LogEntry) : List (List PhaseChange) :=
  (log.splitOnP (· = .reset)).map (List.filterMap LogEntry.change?)

theorem exists_changes (log : List LogEntry) : ∃ first rest, changes log = first :: rest := by
  refine List.ne_nil_iff_exists_cons.mp fun none => ?_
  exact List.splitOnP_ne_nil _ log (List.map_eq_nil_iff.mp none)

theorem changes_reset (log : List LogEntry) : changes (.reset :: log) = [] :: changes log := by
  rw [changes, List.splitOnP_cons_eq_if_modifyHead]
  rfl

theorem changes_event (same : changes log = first :: rest) (kind? : Option DeclKind) (e : Event) :
    changes (.event kind? e :: log) =
      ((LogEntry.event kind? e).change?.toList ++ first) :: rest := by
  rw [changes] at same ⊢
  obtain ⟨entries, others, split, rfl, rfl⟩ := List.map_eq_cons_iff.mp same
  rw [List.splitOnP_cons_eq_if_modifyHead, if_neg (by simp), split, List.modifyHead_cons,
    List.map_cons, List.filterMap_cons]
  cases (LogEntry.event kind? e).change? <;> rfl

/-- No change is lost. -/
theorem flatten_changes (log : List LogEntry) :
    (changes log).flatten = log.filterMap LogEntry.change? := by
  induction log with
  | nil => rfl
  | cons entry log ih =>
    cases entry with
    | reset =>
      rw [changes_reset, List.flatten_cons, ih]
      rfl
    | event kind? e =>
      obtain ⟨first, rest, same⟩ := exists_changes log
      rw [same] at ih
      rw [changes_event same, List.flatten_cons, List.append_assoc, ← List.flatten_cons, ih,
        List.filterMap_cons]
      cases (LogEntry.event kind? e).change? <;> rfl

/-- The phase changes of a statement from a phase on. A list of type parameters starts only if none
has been listed. -/
inductive Course : Phase → Bool → List PhaseChange → Prop
  | nil : Course phase listed []
  | cons (step : PhaseStep kind? source target)
      (once : (listed && PhaseChange.lists ⟨kind?, source, target⟩) = false)
      (rest : Course target (listed || PhaseChange.lists ⟨kind?, source, target⟩) cs) :
      Course source listed (⟨kind?, source, target⟩ :: cs)

/-- The log starts inside of a statement in that phase, which goes on with its course. Each further
statement takes its course from the start. -/
def Courses (phase : Phase) (listed : Bool) (log : List LogEntry) : Prop :=
  ∃ first rest, changes log = first :: rest ∧ Course phase listed first ∧
    ∀ cs ∈ rest, Course .start false cs

namespace Course

theorem steps (course : Course phase listed cs) :
    ∀ c ∈ cs, PhaseStep c.kind? c.source c.target := by
  induction course with
  | nil => nofun
  | cons step _ _ ih => exact List.forall_mem_cons.mpr ⟨step, ih⟩

theorem source_head? (course : Course phase listed cs) : ∀ c ∈ cs.head?, c.source = phase := by
  cases course with
  | nil => nofun
  | cons => simp

theorem isChain (course : Course phase listed cs) :
    cs.IsChain fun c d => d.source = c.target := by
  induction course with
  | nil => exact .nil
  | cons step once rest ih => exact List.isChain_cons.mpr ⟨rest.source_head?, ih⟩

/-- The rest of a course is a course from where its first part ends. -/
theorem of_append (course : Course phase listed (front ++ c :: back)) :
    ∃ listed, Course c.target listed back ∧ (c.lists = true → listed = true) := by
  induction front generalizing phase listed with
  | nil =>
    cases course with
    | cons step once rest => exact ⟨_, rest, fun lists => by rw [lists, Bool.or_true]⟩
  | cons _ _ ih =>
    cases course with
    | cons _ _ rest => exact ih rest

theorem other (course : Course .other listed cs) : cs = [] := by
  cases course with
  | nil => rfl
  | cons step => cases step

theorem constraints (course : Course .constraints listed cs) : cs = [] := by
  cases course with
  | nil => rfl
  | cons step => cases step

/-- Behind a base list come constraints and nothing else. -/
theorem baseList (course : Course .baseList listed cs) : ∀ c ∈ cs, c.target = .constraints := by
  cases course with
  | nil => nofun
  | cons step _ rest =>
    cases step
    rw [rest.constraints]
    exact List.forall_mem_singleton.mpr rfl

theorem listed (course : Course phase true cs) : ∀ c ∈ cs, c.lists = false := by
  generalize same : true = listed at course
  induction course with
  | nil => nofun
  | cons step once rest ih =>
    subst same
    exact List.forall_mem_cons.mpr ⟨by simpa using once, ih rfl⟩

end Course

namespace Courses

theorem nil : Courses phase listed [] :=
  ⟨[], [], rfl, .nil, nofun⟩

theorem reset (courses : Courses .start false log) : Courses phase listed (.reset :: log) := by
  obtain ⟨first, rest, same, course, others⟩ := courses
  refine ⟨[], first :: rest, ?_, .nil, List.forall_mem_cons.mpr ⟨course, others⟩⟩
  rw [changes_reset, same]

theorem silent (courses : Courses phase listed log)
    (silent : (LogEntry.event kind? e).change? = none) :
    Courses phase listed (.event kind? e :: log) := by
  obtain ⟨first, rest, same, course, others⟩ := courses
  refine ⟨first, rest, ?_, course, others⟩
  rw [changes_event same, silent]
  rfl

theorem change (step : PhaseStep kind? source target)
    (once : (listed && PhaseChange.lists ⟨kind?, source, target⟩) = false)
    (courses : Courses target (listed || PhaseChange.lists ⟨kind?, source, target⟩) log) :
    Courses source listed (.event kind? (.phase source target) :: log) := by
  obtain ⟨first, rest, same, course, others⟩ := courses
  exact ⟨_, rest, changes_event same kind? _, .cons step once course, others⟩

theorem course (courses : Courses .start false log) :
    ∀ cs ∈ changes log, Course .start false cs := by
  obtain ⟨first, rest, same, course, others⟩ := courses
  rw [same]
  exact List.forall_mem_cons.mpr ⟨course, others⟩

end Courses

theorem Statement.pastList_of_phase {s : Statement} (phase : s.phase = .typeParameters awaitsName) :
    s.PastList := by
  cases s with
  | typeParameters => trivial
  | _ => cases phase

/-- A turn stays in its phase or enters one that may follow, unless it ends a member. -/
theorem Statement.Takes.phaseTurn (taken : Statement.Takes s around x t)
    (same : x.mark? = some .comma → s = .plain 0 → around.inEnumBody = false) :
    s.PhaseTurn t := by
  cases taken with
  | word => exact (onWord_word s around x.text x.position).phaseTurn
  | literal => exact s.phaseTurn_leave _
  | mark kind found =>
    refine (onMark_mark s around _ x.position).phaseTurn fun comma => same ?_
    exact comma ▸ Lexeme.mark?_eq_some.mpr ⟨kind, found⟩

/-- From a header with type parameters no list of them starts. -/
theorem Statement.Takes.generic_eq_false (taken : Statement.Takes (.header d) around x t)
    (begins : t.statement.phase = .typeParameters true) : d.generic = false := by
  cases taken with
  | word =>
    have onWord := onWord_word (.header d) around x.text x.position
    generalize Statement.word (.header d) around x.text x.position = t at *
    cases onWord <;> cases begins
  | literal => cases begins
  | @mark m =>
    have onMark := onMark_mark (.header d) around m x.position
    generalize Statement.mark (.header d) around m x.position = t at *
    cases onMark with
    | typeParametersBegin first => exact first
    | _ => cases begins

theorem Statement.Takes.lists_eq_false (taken : Statement.Takes s around x t) (past : s.PastList) :
    PhaseChange.lists ⟨s.kind?, s.phase, t.statement.phase⟩ = false := by
  rw [Bool.eq_false_iff]
  intro lists
  obtain ⟨source, target⟩ := PhaseChange.lists_iff.mp lists
  cases s with
  | header d => exact absurd (past.symm.trans (taken.generic_eq_false target)) Bool.noConfusion
  | _ => cases source

namespace State

variable {s next : State} {x : Lexeme} {xs : List Lexeme}

theorem logged_of_same (events : next.events = s.events) :
    s.logged x next = if s.resets x then [.reset] else [] := by
  simp [logged, events]

theorem logged_of_cons (events : next.events = e :: s.events) :
    s.logged x next = .event s.statement.kind? e :: if s.resets x then [.reset] else [] := by
  simp [logged, events]

inductive PhaseLogged (s next : State) : List LogEntry → Prop
  | stays (phase : next.statement.phase = s.statement.phase)
      (keeps : s.statement.PastList → next.statement.PastList) : PhaseLogged s next []
  | changes
      (step : PhaseStep s.statement.kind? s.statement.phase next.statement.phase)
      (keeps : s.statement.PastList → next.statement.PastList)
      (once : s.statement.PastList → PhaseChange.lists
        ⟨s.statement.kind?, s.statement.phase, next.statement.phase⟩ = false) :
      PhaseLogged s next
        [.event s.statement.kind? (.phase s.statement.phase next.statement.phase)]
  | resets (empty : next.statement = .empty) : PhaseLogged s next [.reset]
  | leaves (step : PhaseStep s.statement.kind? s.statement.phase .other)
      (empty : next.statement = .empty) :
      PhaseLogged s next [.event s.statement.kind? (.phase s.statement.phase .other), .reset]
  | scope (silent : (LogEntry.event s.statement.kind? e).change? = none)
      (empty : next.statement = .empty) :
      PhaseLogged s next [.event s.statement.kind? e, .reset]

theorem resets_of_ends (kind : x.kind = .punctuation)
    (found : Punctuation.ofMark? x.text = some m) (ends : m.endsStatement = true) :
    s.resets x = true := by
  simp [resets, Lexeme.endsStatement, Lexeme.mark?_eq_some.mpr ⟨kind, found⟩, ends]

/-- A lexeme that resets from inside the statement is a comma behind a member. -/
theorem turn_of_resets (taken : s.statement.Takes s.surroundings x t)
    (resets : s.resets x = true) : t = Statement.empty.stay (.punctuation .comma) := by
  simp only [State.resets, taken.endsStatement, Bool.false_or, Bool.and_eq_true,
    decide_eq_true_eq] at resets
  obtain ⟨⟨comma, plain⟩, body⟩ := resets
  obtain ⟨kind, found⟩ := Lexeme.mark?_eq_some.mp comma
  cases taken with
  | word other | literal other =>
    rw [kind] at other
    contradiction
  | mark _ here =>
    obtain rfl := Option.some.inj (here.symm.trans found)
    rw [plain]
    simp [Statement.mark, Statement.comma, surroundings, body]

/-- A step logs the phase change that it makes, or the end of the statement. -/
theorem Steps.phaseLogged (steps : s.Steps x next) : PhaseLogged s next (s.logged x next) := by
  cases steps with
  | trivia trivia =>
    have stays : s.resets x = false := by
      simp [resets, Lexeme.endsStatement, Lexeme.mark?_of_isTrivia trivia]
    rw [logged_of_same rfl, stays]
    exact .stays rfl id
  | @turn t taken =>
    cases resets : s.resets x with
    | true =>
      obtain rfl := turn_of_resets taken resets
      have same : (s.turn x.position (Statement.empty.stay (.punctuation .comma))).events =
          s.events := rfl
      rw [logged_of_same same, resets]
      exact .resets rfl
    | false =>
      have same : x.mark? = some .comma → s.statement = .plain 0 →
          s.surroundings.inEnumBody = false := by
        intro comma plain
        simpa [State.resets, taken.endsStatement, comma, plain, surroundings] using resets
      cases taken.phaseTurn same with
      | stays enters phase =>
        rw [logged_of_same (by simp [State.turn, enters]), resets]
        exact .stays phase (taken.pastList same)
      | enters enters step =>
        rw [logged_of_cons (by rw [State.turn, if_pos enters]), resets]
        exact .changes step (taken.pastList same) taken.lists_eq_false
  | opened kind found | closed kind found =>
    rw [logged_of_cons rfl, resets_of_ends kind found rfl]
    exact .scope rfl rfl
  | semicolon kind found =>
    have resets : s.resets x = true := resets_of_ends kind found rfl
    cases s.statement.phaseTurn_leave (.punctuation .semicolon) with
    | stays enters =>
      rw [logged_of_same (by simp [State.turn, enters]), resets]
      exact .resets rfl
    | enters enters step =>
      have other := Statement.phase_of_leave enters
      rw [logged_of_cons (by rw [State.turn, if_pos enters]), resets, other]
      exact .leaves (other ▸ step) rfl

/-- Every statement of a run takes its course, and the one that is being read goes on with it. -/
theorem courses_log (past : listed = true → s.statement.PastList) (xs : List Lexeme) :
    Courses s.statement.phase listed (s.log xs) := by
  induction xs generalizing s listed with
  | nil => exact .nil
  | cons x xs ih =>
    unfold log
    split
    · exact .nil
    · next next stepped =>
      have reset : next.statement = .empty → Courses .start false (next.log xs) := by
        intro empty
        have courses : Courses next.statement.phase false (next.log xs) := ih nofun
        rwa [empty] at courses
      have logged := (steps_of_step stepped).phaseLogged
      generalize s.logged x next = entries at logged
      cases logged with
      | stays phase keeps =>
        rw [← phase]
        exact ih fun listed => keeps (past listed)
      | changes step keeps once =>
        refine .change step ?_ (ih fun behind => ?_)
        · cases listed with
          | false => rfl
          | true => exact once (past rfl)
        · rcases Bool.or_eq_true_iff.mp behind with before | lists
          · exact keeps (past before)
          · exact Statement.pastList_of_phase (PhaseChange.lists_iff.mp lists).2
      | resets empty => exact .reset (reset empty)
      | leaves step empty =>
        exact .change step (by simp [PhaseChange.lists]) (.reset (reset empty))
      | scope silent empty => exact .silent (.reset (reset empty)) silent

theorem Steps.events_logged (steps : s.Steps x next) :
    next.events.reverse =
      s.events.reverse ++ (s.logged x next).filterMap LogEntry.event? := by
  have events : next.events = s.events ∨ ∃ e, next.events = e :: s.events := by
    cases steps.scopeStep with
    | inside _ _ events => exact events.imp_right fun ⟨_, _, new⟩ => ⟨_, new⟩
    | opened _ _ _ _ events | closed _ _ _ events => exact .inr ⟨_, events⟩
  rcases events with same | ⟨e, new⟩
  · rw [logged_of_same same, same]
    split <;> simp [LogEntry.event?]
  · rw [logged_of_cons new, new, List.reverse_cons]
    split <;> simp [LogEntry.event?]

/-- The events of a run are those of its log. -/
theorem events_log (s : State) (xs : List Lexeme) :
    (s.reached xs).events.reverse =
      s.events.reverse ++ (s.log xs).filterMap LogEntry.event? := by
  induction xs generalizing s with
  | nil => simp [reached, read, log]
  | cons x xs ih =>
    rw [reached_cons, log]
    cases stepped : s.step x with
    | error => simp
    | ok next =>
      dsimp only
      rw [ih, (steps_of_step stepped).events_logged, List.filterMap_append, List.append_assoc]

end State

/-- How the phases of the statements in `xs` follow each other. -/
structure PhasesFollow (xs : List Lexeme) : Prop where
  events : (State.initial.log xs).filterMap LogEntry.event? =
    (traceClassification xs).1.filterMap TraceEntry.event?
  steps : ∀ kind? source target,
    .event kind? (.phase source target) ∈ State.initial.log xs → PhaseStep kind? source target
  first : ∀ cs ∈ changes (State.initial.log xs), ∀ c ∈ cs.head?, c.source = .start
  chained : ∀ cs ∈ changes (State.initial.log xs), cs.IsChain fun c d => d.source = c.target
  final : ∀ front c back, front ++ c :: back ∈ changes (State.initial.log xs) →
    c.target = .other ∨ c.target = .constraints → back = []
  bases : ∀ front c back, front ++ c :: back ∈ changes (State.initial.log xs) →
    c.target = .baseList → ∀ d ∈ back, d.target = .constraints
  once : ∀ front c back, front ++ c :: back ∈ changes (State.initial.log xs) →
    c.lists = true → ∀ d ∈ back, d.lists = false

/-- In all texts, the statements go through their phases in the order of a declaration. -/
theorem phasesFollow (xs : List Lexeme) : PhasesFollow xs := by
  have courses : Courses State.initial.statement.phase false (State.initial.log xs) :=
    State.courses_log (by nofun) xs
  constructor
  case events =>
    rw [events_trace, State.events_log]
    rfl
  case steps =>
    intro kind? source target member
    have change : ⟨kind?, source, target⟩ ∈ (changes (State.initial.log xs)).flatten := by
      rw [flatten_changes]
      exact List.mem_filterMap.mpr ⟨_, member, rfl⟩
    obtain ⟨cs, statement, change⟩ := List.mem_flatten.mp change
    exact (courses.course cs statement).steps _ change
  case first => exact fun cs statement => (courses.course cs statement).source_head?
  case chained => exact fun cs statement => (courses.course cs statement).isChain
  case final =>
    intro front c back statement target
    obtain ⟨listed, rest, _⟩ := (courses.course _ statement).of_append
    rcases target with target | target
    · exact (target ▸ rest).other
    · exact (target ▸ rest).constraints
  case bases =>
    intro front c back statement target
    obtain ⟨listed, rest, _⟩ := (courses.course _ statement).of_append
    exact (target ▸ rest).baseList
  case once =>
    intro front c back statement lists
    obtain ⟨listed, rest, behind⟩ := (courses.course _ statement).of_append
    obtain rfl := behind lists
    exact rest.listed

/-- A qualified name, and a plain statement behind it. -/
example :
    changes (State.initial.log
      [⟨.word, "namespace", .start 0⟩, ⟨.word, "N", .start 1⟩, ⟨.punctuation, ".", .start 2⟩,
        ⟨.word, "M", .start 3⟩, ⟨.punctuation, ";", .start 4⟩, ⟨.word, "x", .start 5⟩]) =
      [[⟨none, .start, .name⟩, ⟨some .namespaceDecl, .name, .header⟩,
        ⟨some .namespaceDecl, .header, .name⟩, ⟨some .namespaceDecl, .name, .header⟩],
        [⟨none, .start, .other⟩]] := by
  decide

end Highlight
