import Highlight.Proofs.Classification.Step

/-! How a classification fails: at a lexeme that is not read, or because the text ends too soon. -/
namespace Highlight

namespace Lexeme

/-- The mark that the lexeme is, in the role it has on its own. -/
def mark? (x : Lexeme) : Option Punctuation :=
  if x.kind = .punctuation then Punctuation.ofMark? x.text else none

def endsStatement (x : Lexeme) : Bool :=
  x.mark?.any Punctuation.endsStatement

theorem mark?_eq_some {x : Lexeme} :
    x.mark? = some m ↔ x.kind = .punctuation ∧ Punctuation.ofMark? x.text = some m := by
  unfold mark?
  split <;> simp [*]

theorem mark?_of_kind {x : Lexeme} (kind : x.kind ≠ .punctuation) : x.mark? = none :=
  if_neg kind

theorem mark?_of_isTrivia {x : Lexeme} (trivia : x.kind.isTrivia = true) : x.mark? = none := by
  refine mark?_of_kind fun kind => ?_
  rw [kind] at trivia
  contradiction

end Lexeme

theorem Statement.Takes.endsStatement (taken : Statement.Takes s around x t) :
    x.endsStatement = false := by
  unfold Lexeme.endsStatement
  cases taken with
  | word kind | literal kind => rw [Lexeme.mark?_of_kind (by simp [kind])]; rfl
  | mark kind found inside => rw [Lexeme.mark?_eq_some.mpr ⟨kind, found⟩]; exact inside

namespace Statement

theorem openRegion?_of_unclosed? {s : Statement} (opened : s.unclosed? = some e) :
    s.openRegion? = some e := by
  simp [openRegion?, opened]

/-- A statement behind which the text may end may also end at a brace. -/
theorem unclosed?_of_openRegion? {s : Statement} (closed : s.openRegion? = none) :
    s.unclosed? = none := by
  cases opened : s.unclosed? with
  | none => rfl
  | some e =>
    rw [openRegion?_of_unclosed? opened] at closed
    contradiction

/-- The places that the statement keeps, each with the region that starts there. An open `<` counts
as one of type arguments, be it of type parameters or not. -/
def anchors : Statement → List (Region × Position)
  | .start _ _ | .plain _ => []
  | .naming d | .header d => [(.declaration, d.keyword)]
  | .typeParameters d _ angles => (.declaration, d.keyword) :: angles.map (.typeArgumentList, ·)
  | .parameters d parens => (.declaration, d.keyword) :: parens.map (.parameterList, ·)
  | .baseList d colon angles parens =>
    (.declaration, d.keyword) :: (.baseList, colon) ::
      (angles.map (.typeArgumentList, ·) ++ parens.map (.parameterList, ·))
  | .constraints d clause angles =>
    (.declaration, d.keyword) :: (.constraintClause, clause) :: angles.map (.typeArgumentList, ·)

theorem openRegion?_angle {s : Statement} (top : s.angles = p :: outer)
    (opened : s.openRegion? = some e) :
    e = ⟨.unterminated .typeParameterList, p⟩ ∨ e = ⟨.unterminated .typeArgumentList, p⟩ := by
  unfold openRegion? unclosed? at opened
  rw [top] at opened
  cases outer with
  | cons q rest => exact .inr (Option.some.inj opened).symm
  | nil =>
    cases s with
    | typeParameters => exact .inl (Option.some.inj opened).symm
    | _ => exact .inr (Option.some.inj opened).symm

/-- What a statement leaves open is a region that starts at one of its places. -/
theorem exists_anchor {s : Statement} (opened : s.openRegion? = some e) :
    ∃ anchor ∈ s.anchors, e = ⟨.unterminated anchor.1, anchor.2⟩ ∨
      anchor.1 = .typeArgumentList ∧ e = ⟨.unterminated .typeParameterList, anchor.2⟩ := by
  cases top : s.angles with
  | cons p outer =>
    have member : (Region.typeArgumentList, p) ∈ s.anchors := by
      cases s <;> simp_all [angles, anchors]
    rcases openRegion?_angle top opened with rfl | rfl
    · exact ⟨_, member, .inr ⟨rfl, rfl⟩⟩
    · exact ⟨_, member, .inl rfl⟩
  | nil =>
    cases s with
    | start | plain => contradiction
    | typeParameters d awaitsName angles =>
      obtain rfl : angles = [] := top
      contradiction
    | naming d | header d =>
      exact ⟨_, List.mem_cons_self, .inl (Option.some.inj opened).symm⟩
    | constraints d clause angles =>
      obtain rfl : angles = [] := top
      exact ⟨_, List.mem_cons_of_mem _ List.mem_cons_self, .inl (Option.some.inj opened).symm⟩
    | parameters d parens =>
      cases parens with
      | nil => contradiction
      | cons p parens =>
        exact ⟨(.parameterList, p), by simp [anchors], .inl (Option.some.inj opened).symm⟩
    | baseList d colon angles parens =>
      obtain rfl : angles = [] := top
      cases parens with
      | nil => exact ⟨(.baseList, colon), by simp [anchors], .inl (Option.some.inj opened).symm⟩
      | cons p parens =>
        exact ⟨(.parameterList, p), by simp [anchors], .inl (Option.some.inj opened).symm⟩

end Statement

namespace State

/-- The steps that fail, with what each of them finds. -/
inductive Fails (s : State) (x : Lexeme) : ClassifyError → Prop
  | unrecognized (kind : x.kind = .punctuation) (unknown : Punctuation.ofMark? x.text = none) :
      Fails s x ⟨.unrecognized x.text, x.position⟩
  | unclosed (found : x.mark? = some m) (ends : m = .openBrace ∨ m = .semicolon)
      (opened : s.statement.unclosed? = some e) : Fails s x e
  | openRegion (found : x.mark? = some .closeBrace)
      (opened : s.statement.openRegion? = some e) : Fails s x e
  | unbalanced (found : x.mark? = some .closeBrace) (closed : s.statement.openRegion? = none)
      (outermost : s.nesting.pop? = none) : Fails s x ⟨.unbalancedBrace, x.position⟩

variable {s : State} {x : Lexeme} {xs : List Lexeme} {e : ClassifyError}

theorem fails_of_mark (found : x.mark? = some m) (failed : State.mark s m x.position = .error e) :
    s.Fails x e := by
  cases m <;> try contradiction
  case openBrace =>
    simp only [State.mark, openBrace] at failed
    split at failed
    · next opened => cases failed; exact .unclosed found (.inl rfl) opened
    · contradiction
  case closeBrace =>
    simp only [State.mark, closeBrace] at failed
    split at failed
    · next opened => cases failed; exact .openRegion found opened
    · next closed outermost => cases failed; exact .unbalanced found closed outermost
    · contradiction
  case semicolon =>
    simp only [State.mark, semicolon] at failed
    split at failed
    · next opened => cases failed; exact .unclosed found (.inr rfl) opened
    · contradiction

/-- A step fails for one of a few reasons. -/
theorem fails_of_step (failed : s.step x = .error e) : s.Fails x e := by
  unfold step at failed
  split at failed <;> try contradiction
  next kind =>
    split at failed
    · next unknown => cases failed; exact .unrecognized kind unknown
    · next found => exact fails_of_mark (Lexeme.mark?_eq_some.mpr ⟨kind, found⟩) failed

/-- Each of these reasons makes the step fail. -/
theorem step_of_fails (fails : s.Fails x e) : s.step x = .error e := by
  cases fails with
  | unrecognized kind unknown => simp [step, kind, unknown]
  | unclosed found ends opened =>
    obtain ⟨kind, found⟩ := Lexeme.mark?_eq_some.mp found
    rcases ends with rfl | rfl <;> simp [step, kind, found, mark, openBrace, semicolon, opened]
  | openRegion found opened =>
    obtain ⟨kind, found⟩ := Lexeme.mark?_eq_some.mp found
    simp [step, kind, found, mark, closeBrace, opened]
  | unbalanced found closed outermost =>
    obtain ⟨kind, found⟩ := Lexeme.mark?_eq_some.mp found
    simp [step, kind, found, mark, closeBrace, closed, outermost]

/-- Beside `step_iff`: later proofs about failing steps go by cases on `Fails`. -/
theorem step_eq_error : s.step x = .error e ↔ s.Fails x e :=
  ⟨fails_of_step, step_of_fails⟩

/-- A run fails at one lexeme, with the state that the lexemes in front of it lead to. -/
theorem read_eq_error {halt : Halt} :
    s.read xs = .error halt ↔
      ∃ front x back, xs = front ++ x :: back ∧ s.read front = .ok halt.state ∧
        halt.state.step x = .error halt.error := by
  constructor
  · intro failed
    induction xs generalizing s with
    | nil => contradiction
    | cons x xs ih =>
      unfold State.read at failed
      split at failed
      · next stuck => cases failed; exact ⟨[], x, xs, rfl, rfl, stuck⟩
      · next stepped =>
        obtain ⟨front, y, back, rfl, read, stuck⟩ := ih failed
        refine ⟨x :: front, y, back, rfl, ?_, stuck⟩
        rw [State.read, stepped]
        exact read
  · rintro ⟨front, x, back, rfl, read, stuck⟩
    rw [read_append, read]
    simp only [Except.bind, State.read, stuck]

end State

inductive FailsBehind (front : List Lexeme) : List Lexeme → ClassifyError → Prop
  | lexeme (s : State) (read : State.initial.read front = .ok s) (stuck : s.step x = .error e) :
      FailsBehind front (x :: back) e
  | finish (s : State) (read : State.initial.read front = .ok s) (opened : s.open? = some e) :
      FailsBehind front [] e

/-- A classification fails in a step, or at the end with something open. -/
theorem classification_eq_error {halt : Halt} :
    classification xs = .error halt ↔
      State.initial.read xs = .error halt ∨
        State.initial.read xs = .ok halt.state ∧ halt.state.open? = some halt.error := by
  unfold classification
  cases read : State.initial.read xs with
  | error h => simp [Except.bind]
  | ok last =>
    simp only [Except.bind, State.finish, reduceCtorEq, false_or, Except.ok.injEq]
    split
    · next opened =>
      constructor
      · intro same
        cases same
        exact ⟨rfl, opened⟩
      · rintro ⟨rfl, same⟩
        obtain rfl := Option.some.inj (opened.symm.trans same)
        rfl
    · next closed =>
      constructor
      · intro same
        contradiction
      · rintro ⟨rfl, same⟩
        rw [closed] at same
        contradiction

/-- A text fails exactly if one of the reasons holds behind a part of it that is read. -/
theorem classify_eq_error :
    classify xs = .error e ↔ ∃ front rest, xs = front ++ rest ∧ FailsBehind front rest e := by
  have halts : classify xs = .error e ↔ ∃ s, classification xs = .error ⟨s, e⟩ := by
    unfold classify
    cases classification xs with
    | ok s => simp
    | error halt =>
      constructor
      · intro same
        cases same
        exact ⟨halt.state, rfl⟩
      · rintro ⟨s, same⟩
        cases same
        rfl
  rw [halts]
  constructor
  · rintro ⟨s, failed⟩
    rcases classification_eq_error.mp failed with failed | ⟨read, opened⟩
    · obtain ⟨front, x, back, rfl, read, stuck⟩ := State.read_eq_error.mp failed
      exact ⟨front, x :: back, rfl, .lexeme s read stuck⟩
    · exact ⟨xs, [], (List.append_nil xs).symm, .finish s read opened⟩
  · rintro ⟨front, rest, rfl, fails⟩
    cases fails with
    | lexeme s read stuck =>
      refine ⟨s, classification_eq_error.mpr (.inl (State.read_eq_error.mpr ?_))⟩
      exact ⟨front, _, _, rfl, read, stuck⟩
    | finish s read opened =>
      rw [List.append_nil]
      exact ⟨s, classification_eq_error.mpr (.inr ⟨read, opened⟩)⟩

end Highlight
