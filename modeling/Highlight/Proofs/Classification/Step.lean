import Highlight.Classification.Basic

/-! What a step of a classification can do, said once. A lexeme is trivia, takes a turn inside the
statement, or ends the statement as a brace or a semicolon. -/
namespace Highlight

/-- The lexemes that become tokens. -/
def significant (xs : List Lexeme) : List Lexeme :=
  xs.filter fun x => !x.kind.isTrivia

@[simp] theorem significant_nil : significant [] = [] := rfl

@[simp] theorem significant_append (xs ys : List Lexeme) :
    significant (xs ++ ys) = significant xs ++ significant ys :=
  List.filter_append ..

theorem significant_cons_trivia {x : Lexeme} (trivia : x.kind.isTrivia = true)
    (xs : List Lexeme) : significant (x :: xs) = significant xs := by
  simp [significant, trivia]

theorem significant_cons {x : Lexeme} (kept : x.kind.isTrivia = false) (xs : List Lexeme) :
    significant (x :: xs) = x :: significant xs := by
  simp [significant, kept]

def Punctuation.endsStatement : Punctuation → Bool
  | .openBrace | .closeBrace | .semicolon => true
  | _ => false

namespace Statement

/-- The turns of lexemes that stay inside a statement. -/
inductive Takes (s : Statement) (around : Surroundings) (x : Lexeme) : Turn → Prop
  | word (kind : x.kind = .word) : Takes s around x (s.word around x.text x.position)
  | literal (kind : x.kind = .literal) : Takes s around x (s.literal x.text)
  | mark (kind : x.kind = .punctuation) (found : Punctuation.ofMark? x.text = some m)
      (inside : m.endsStatement = false) : Takes s around x (s.mark around m x.position)

theorem Takes.kept (taken : Takes s around x t) : x.kind.isTrivia = false := by
  cases taken with
  | word kind | literal kind | mark kind => rw [kind]; rfl

end Statement

namespace State

variable {s next last : State} {x : Lexeme} {xs : List Lexeme}

/-- The steps that succeed, with what each of them needs. -/
inductive Steps (s : State) (x : Lexeme) : State → Prop
  | trivia (trivia : x.kind.isTrivia = true) : Steps s x s
  | turn (taken : s.statement.Takes s.surroundings x t) : Steps s x (s.turn x.position t)
  | opened (kind : x.kind = .punctuation) (found : Punctuation.ofMark? x.text = some .openBrace)
      (closed : s.statement.unclosed? = none) :
      Steps s x
        { tokens := ⟨.punctuation .openBrace, x.position⟩ :: s.tokens
          nesting := s.nesting.push (s.statement.scope x.position)
          statement := .empty
          events := .opened (s.statement.scope x.position) (s.nesting.depth + 1) :: s.events }
  | closed (kind : x.kind = .punctuation) (found : Punctuation.ofMark? x.text = some .closeBrace)
      (closed : s.statement.openRegion? = none) (popped : s.nesting.pop? = some (scope, outer)) :
      Steps s x
        { tokens := ⟨.punctuation .closeBrace, x.position⟩ :: s.tokens
          nesting := outer
          statement := .empty
          events := .closed scope outer.depth :: s.events }
  | semicolon (kind : x.kind = .punctuation) (found : Punctuation.ofMark? x.text = some .semicolon)
      (closed : s.statement.unclosed? = none) :
      Steps s x
        { s.turn x.position (s.statement.leave (.punctuation .semicolon)) with statement := .empty }

theorem steps_of_mark (kind : x.kind = .punctuation) (found : Punctuation.ofMark? x.text = some m)
    (stepped : State.mark s m x.position = .ok next) : s.Steps x next := by
  cases ends : m.endsStatement with
  | false =>
    have same : State.mark s m x.position =
        .ok (s.turn x.position (s.statement.mark s.surroundings m x.position)) := by
      cases m <;> first | rfl | contradiction
    obtain rfl := Except.ok.inj (same.symm.trans stepped)
    exact .turn (.mark kind found ends)
  | true =>
    cases m <;> try contradiction
    case openBrace =>
      simp only [State.mark, openBrace] at stepped
      split at stepped
      · contradiction
      · next closed => cases stepped; exact .opened kind found closed
    case closeBrace =>
      simp only [State.mark, closeBrace] at stepped
      split at stepped
      · contradiction
      · contradiction
      · next closed popped => cases stepped; exact .closed kind found closed popped
    case semicolon =>
      simp only [State.mark, semicolon] at stepped
      split at stepped
      · contradiction
      · next closed => cases stepped; exact .semicolon kind found closed

/-- All that a step can do: the other theorems about steps are by cases on this. -/
theorem steps_of_step (stepped : s.step x = .ok next) : s.Steps x next := by
  unfold step at stepped
  split at stepped
  case h_1 kind | h_2 kind | h_3 kind | h_4 kind =>
    cases stepped
    exact .trivia (by rw [kind]; rfl)
  case h_5 kind =>
    cases stepped
    exact .turn (.word kind)
  case h_6 kind =>
    cases stepped
    exact .turn (.literal kind)
  case h_7 kind =>
    split at stepped
    · contradiction
    · next found => exact steps_of_mark kind found stepped

/-- Conversely, each of these cases is a step. -/
theorem step_of_steps (steps : s.Steps x next) : s.step x = .ok next := by
  cases steps with
  | trivia trivia =>
    unfold step
    split <;> simp_all [LexemeKind.isTrivia]
  | turn taken =>
    cases taken with
    | word kind | literal kind => simp [step, kind]
    | mark kind found inside =>
      simp only [step, kind, found]
      cases ‹Punctuation› <;> first | rfl | contradiction
  | opened kind found closed => simp [step, kind, found, mark, openBrace, closed]
  | closed kind found closed popped => simp [step, kind, found, mark, closeBrace, closed, popped]
  | semicolon kind found closed => simp [step, kind, found, mark, semicolon, closed]

/-- Later proofs about steps go by cases on `Steps` and do not open `step`. -/
theorem step_iff : s.step x = .ok next ↔ s.Steps x next :=
  ⟨steps_of_step, step_of_steps⟩

theorem open?_eq_none :
    s.open? = none ↔ s.statement.openRegion? = none ∧ s.nesting = .empty := by
  obtain ⟨tokens, ⟨_ | ⟨scope, scopes⟩⟩, statement, events⟩ := s
  · simp [open?, Nesting.innermost?, Nesting.empty]
  · cases statement.openRegion? <;> simp [open?, Nesting.innermost?, Nesting.empty]

theorem read_append_eq_ok :
    s.read (xs ++ ys) = .ok last ↔ ∃ mid, s.read xs = .ok mid ∧ mid.read ys = .ok last := by
  rw [read_append]
  cases s.read xs <;> simp [Except.bind]

/-- What every step keeps, every run keeps. The property may speak about the lexemes read so far. -/
theorem read_invariant {P : List Lexeme → State → Prop}
    (preserves : ∀ {ys s x next}, P ys s → s.Steps x next → P (ys ++ [x]) next)
    (read : s.read xs = .ok last) (initial : P before s) : P (before ++ xs) last := by
  induction xs generalizing before s with
  | nil =>
    cases read
    rwa [List.append_nil]
  | cons x xs ih =>
    unfold State.read at read
    split at read
    · contradiction
    · next stepped =>
      rw [List.append_cons]
      exact ih read (preserves initial (steps_of_step stepped))

theorem read_initial {P : List Lexeme → State → Prop}
    (preserves : ∀ {ys s x next}, P ys s → s.Steps x next → P (ys ++ [x]) next)
    (read : State.initial.read xs = .ok last) (initial : P [] State.initial) : P xs last := by
  have kept : P ([] ++ xs) last := read_invariant preserves read initial
  exact kept

/-- A lexeme is read behind others. -/
theorem read_concat (read : State.initial.read xs = .ok s) (steps : s.Steps x next) :
    State.initial.read (xs ++ [x]) = .ok next := by
  refine read_append_eq_ok.mpr ⟨s, read, ?_⟩
  rw [State.read, step_of_steps steps]
  rfl

/-- The step may rest on the run before it. -/
theorem read_run {P : List Lexeme → State → Prop}
    (preserves : ∀ {ys s x next}, State.initial.read ys = .ok s → P ys s → s.Steps x next →
      P (ys ++ [x]) next)
    (read : State.initial.read xs = .ok last) (initial : P [] State.initial) : P xs last := by
  have kept : State.initial.read xs = .ok last ∧ P xs last := by
    refine read_initial (P := fun ys s => State.initial.read ys = .ok s ∧ P ys s) ?_ read
      ⟨rfl, initial⟩
    intro ys s x next both steps
    exact ⟨read_concat both.1 steps, preserves both.1 both.2 steps⟩
  exact kept.2

theorem read_keeps {P : State → Prop} (preserves : ∀ {s x next}, P s → s.Steps x next → P next)
    (read : s.read xs = .ok last) (initial : P s) : P last :=
  @read_invariant s last xs [] (fun _ => P) preserves read initial

end State

def Recognized (x : Lexeme) : Prop :=
  x.kind = .punctuation → ∃ m, Punctuation.ofMark? x.text = some m

instance (x : Lexeme) : Decidable (Recognized x) :=
  decidable_of_iff (x.kind = .punctuation → (Punctuation.ofMark? x.text).isSome = true)
    (by simp only [Recognized, Option.isSome_iff_exists])

theorem State.Steps.recognized {s next : State} (steps : s.Steps x next) : Recognized x := by
  intro kind
  cases steps with
  | trivia trivia => rw [kind] at trivia; contradiction
  | turn taken =>
    cases taken with
    | word other | literal other => rw [kind] at other; contradiction
    | mark _ found => exact ⟨_, found⟩
  | opened _ found | closed _ found | semicolon _ found => exact ⟨_, found⟩

/-- Classification leaves no mark without a role. -/
theorem recognized_of_read (read : State.initial.read xs = .ok s) : ∀ x ∈ xs, Recognized x := by
  refine State.read_initial (P := fun ys _ => ∀ x ∈ ys, Recognized x) ?_ read nofun
  intro ys s x next known steps
  exact List.forall_mem_append.mpr ⟨known, List.forall_mem_singleton.mpr steps.recognized⟩

/-- A classification succeeds when the whole list is read and nothing is left open. -/
theorem classification_eq_ok :
    classification xs = .ok s ↔ State.initial.read xs = .ok s ∧ s.open? = none := by
  unfold classification
  cases State.initial.read xs with
  | error halt => simp [Except.bind]
  | ok last =>
    simp only [Except.bind, State.finish, Except.ok.injEq]
    split
    · next opened =>
      refine ⟨nofun, ?_⟩
      rintro ⟨rfl, closed⟩
      rw [opened] at closed
      contradiction
    · next closed =>
      refine ⟨fun same => ?_, fun same => by rw [same.1]⟩
      obtain rfl := Except.ok.inj same
      exact ⟨rfl, closed⟩

theorem classify_eq_ok :
    classify xs = .ok ts ↔
      ∃ s, State.initial.read xs = .ok s ∧ s.open? = none ∧ s.tokens.reverse = ts := by
  simp only [← and_assoc, ← classification_eq_ok]
  unfold classify
  cases classification xs <;> simp

end Highlight
