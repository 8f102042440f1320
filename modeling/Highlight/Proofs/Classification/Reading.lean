import Highlight.Proofs.Classification.Relocation
import Highlight.Proofs.Lexeme.Layout

/-! Reading a layout: the roles that its items get on the way from one statement to another, outside
the bodies of enumerations. -/
namespace Highlight

open Layout

/-- The place of all items. Roles do not depend on it. -/
def Layout.origin : Position :=
  .start 0

def Layout.Item.lexeme (item : Item) : Lexeme :=
  ⟨item.kind, item.text, origin⟩

/-- The items get the roles, and take the statement from `source` to `target`. Braces in between
are balanced. -/
def Reads (source : Statement) (items : List Item) (roles : List Role) (target : Statement) :
    Prop :=
  ∀ s : State, s.statement = source → s.nesting.inEnumBody = false →
    ∃ t : State, s.read (items.map Item.lexeme) = .ok t ∧ t.statement = target ∧
      t.nesting = s.nesting ∧ t.tokens.map Token.role = roles.reverse ++ s.tokens.map Token.role

namespace Reads

variable {source middle target : Statement} {items others : List Item} {roles rest : List Role}
  {s : State}

theorem nil : Reads source [] [] source := by
  intro s here _
  exact ⟨s, rfl, here, rfl, rfl⟩

theorem append (first : Reads source items roles middle)
    (second : Reads middle others rest target) :
    Reads source (items ++ others) (roles ++ rest) target := by
  intro s here outside
  obtain ⟨t, read, there, nesting, tokens⟩ := first s here outside
  rw [← nesting] at outside
  obtain ⟨u, readOn, done, nestingOn, tokensOn⟩ := second t there outside
  refine ⟨u, ?_, done, nestingOn.trans nesting, ?_⟩
  · rw [List.map_append, State.read_append, read]
    exact readOn
  · rw [tokensOn, tokens, List.reverse_append, List.append_assoc]

theorem blank : Reads source [.blank] [] source := by
  intro s here _
  exact ⟨s, rfl, here, rfl, rfl⟩

theorem newline : Reads source [.newline] [] source := by
  intro s here _
  exact ⟨s, rfl, here, rfl, rfl⟩

theorem surroundings_eq (outside : s.nesting.inEnumBody = false) :
    s.surroundings = ⟨false, s.last?⟩ := by
  rw [State.surroundings, outside]

theorem step_word (outside : s.nesting.inEnumBody = false)
    (taken : s.statement.word ⟨false, s.last?⟩ w origin = turn) :
    s.step (Item.word w).lexeme = .ok (s.turn origin turn) := by
  rw [← taken, ← surroundings_eq outside]
  rfl

theorem step_mark (member : m ∈ Punctuation.marks) (inside : m.endsStatement = false)
    (outside : s.nesting.inEnumBody = false)
    (taken : s.statement.mark ⟨false, s.last?⟩ m origin = turn) :
    s.step (Item.mark m).lexeme = .ok (s.turn origin turn) := by
  rw [← taken, ← surroundings_eq outside]
  exact State.step_of_steps (.turn (.mark rfl (Punctuation.ofMark?_spelling member) inside))

theorem word
    (taken : ∀ last?, source.word ⟨false, last?⟩ w origin = ⟨role, target, enters, false⟩) :
    Reads source [.word w] [role] target := by
  rintro s rfl outside
  refine ⟨s.turn origin ⟨role, target, enters, false⟩, ?_, rfl, rfl, rfl⟩
  rw [List.map_singleton, State.read, step_word outside (taken s.last?)]
  rfl

theorem mark (member : m ∈ Punctuation.marks) (inside : m.endsStatement = false)
    (taken : ∀ last?, source.mark ⟨false, last?⟩ m origin = ⟨role, target, enters, false⟩) :
    Reads source [.mark m] [role] target := by
  rintro s rfl outside
  refine ⟨s.turn origin ⟨role, target, enters, false⟩, ?_, rfl, rfl, rfl⟩
  rw [List.map_singleton, State.read, step_mark member inside outside (taken s.last?)]
  rfl

/-- What `<` is depends on the role before it. -/
theorem word_lessThan
    (taken : ∀ last?, source.word ⟨false, last?⟩ w origin = ⟨role, middle, enters, false⟩)
    (angle : middle.lessThan ⟨false, some role⟩ origin = ⟨bracket, target, opens, false⟩) :
    Reads source [.word w, .mark .lessThan] [role, bracket] target := by
  rintro s rfl outside
  have first := step_word outside (taken s.last?)
  have second : (s.turn origin ⟨role, middle, enters, false⟩).step (Item.mark .lessThan).lexeme =
      .ok ((s.turn origin ⟨role, middle, enters, false⟩).turn origin
        ⟨bracket, target, opens, false⟩) :=
    step_mark (by decide) rfl outside angle
  refine ⟨(s.turn origin ⟨role, middle, enters, false⟩).turn origin
    ⟨bracket, target, opens, false⟩, ?_, rfl, rfl, rfl⟩
  rw [List.map_cons, List.map_singleton, State.read, first]
  dsimp only
  rw [State.read, second]
  rfl

theorem step_openBrace (closed : s.statement.unclosed? = none) :
    ∃ t, s.step (Item.mark .openBrace).lexeme = .ok t ∧ t.statement = .empty ∧
      t.nesting = s.nesting.push (s.statement.scope origin) ∧
      t.tokens = ⟨.punctuation .openBrace, origin⟩ :: s.tokens := by
  have opens := State.step_of_steps
    (.opened (x := (Item.mark .openBrace).lexeme) rfl rfl closed)
  exact ⟨_, opens, rfl, rfl, rfl⟩

theorem step_closeBrace (closed : s.statement.openRegion? = none)
    (popped : s.nesting.pop? = some (scope, outer)) :
    ∃ t, s.step (Item.mark .closeBrace).lexeme = .ok t ∧ t.statement = .empty ∧
      t.nesting = outer ∧ t.tokens = ⟨.punctuation .closeBrace, origin⟩ :: s.tokens := by
  have closes := State.step_of_steps
    (.closed (x := (Item.mark .closeBrace).lexeme) rfl rfl closed popped)
  exact ⟨_, closes, rfl, rfl, rfl⟩

/-- The scope of a statement is pushed, and popped again behind its body. -/
theorem braces (closed : source.unclosed? = none)
    (kind : (source.scope origin).kind ≠ .body .enumDecl) (body : Reads .empty items roles .empty) :
    Reads source (.mark .openBrace :: (items ++ [.mark .closeBrace]))
      (.punctuation .openBrace :: (roles ++ [.punctuation .closeBrace])) .empty := by
  rintro s rfl _
  obtain ⟨inner, opens, empty, pushed, opening⟩ := step_openBrace closed
  have outside : inner.nesting.inEnumBody = false := by
    rw [pushed]
    simpa [Nesting.inEnumBody, Nesting.kind?, Nesting.innermost?, Nesting.push] using kind
  obtain ⟨last, read, there, nesting, tokens⟩ := body inner empty outside
  have settled : last.statement.openRegion? = none := by
    rw [there]
    rfl
  have popped : last.nesting.pop? = some (s.statement.scope origin, s.nesting) := by
    rw [nesting, pushed, Nesting.pop?_push]
  obtain ⟨t, closes, done, outer, closing⟩ := step_closeBrace settled popped
  refine ⟨t, ?_, done, outer, ?_⟩
  · rw [List.map_cons, List.map_append, State.read, opens]
    dsimp only
    rw [State.read_append, read, Except.bind, List.map_singleton, State.read, closes]
    rfl
  · simp [closing, tokens, opening]

theorem flatMap {xs : List α} {layout : α → List Item} {given : α → List Role}
    (each : ∀ x ∈ xs, Reads source (layout x) (given x) source) :
    Reads source (xs.flatMap layout) (xs.flatMap given) source := by
  induction xs with
  | nil => exact nil
  | cons x xs ih =>
    have others := ih fun y member => each y (.tail _ member)
    exact (each x (.head _)).append others

/-- A list with commas is read as a whole if its items and its commas are. -/
theorem separated {x : α} {xs : List α} {layout : α → List Item} {given : α → List Role}
    (each : ∀ y ∈ x :: xs, Reads source (layout y) (given y) target)
    (comma : Reads target [.mark .comma] [.punctuation .comma] source) :
    Reads source (Layout.separated ((x :: xs).map layout))
      ([Role.punctuation .comma].intercalate ((x :: xs).map given)) target := by
  induction xs generalizing x with
  | nil =>
    simpa [Layout.separated] using each x (.head _)
  | cons y xs ih =>
    have others := ih fun z member => each z (.tail _ member)
    have first := each x (.head _)
    have between := (comma.append blank).append others
    simpa [Layout.separated, List.intercalate_cons_cons] using first.append between

end Reads

/-- Items that are read from one start of a statement to the next classify with their roles. -/
theorem classify_of_reads (reads : Reads .empty items given .empty) :
    ∃ ts, classify (items.map Item.lexeme) = .ok ts ∧ ts.map Token.role = given := by
  obtain ⟨t, read, there, nesting, tokens⟩ := reads State.initial rfl rfl
  have nothing : t.open? = none := by
    rw [State.open?, there, nesting]
    rfl
  refine ⟨t.tokens.reverse, classify_eq_ok.mpr ⟨t, read, nothing, rfl⟩, ?_⟩
  rw [List.map_reverse, tokens]
  simp [State.initial]

end Highlight
