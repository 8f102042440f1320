import Highlight.Proofs.Classification.Nested

/-! Attributes: at the start of a statement, all lexemes from an opening bracket to the one that
closes it are passed over, and the statement goes on as if they were not there. -/
namespace Highlight

def Punctuation.bracketing : Punctuation → Int
  | .openParen | .openBracket => 1
  | .closeParen | .closeBracket => -1
  | _ => 0

def Lexeme.bracketing (x : Lexeme) : Int :=
  (x.mark?.map Punctuation.bracketing).getD 0

/-- The number of opening brackets less that of closing ones. -/
def bracketing (xs : List Lexeme) : Int :=
  (xs.map Lexeme.bracketing).sum

/-- From `[` to the bracket that closes it. -/
structure AttributeSection (xs : List Lexeme) : Prop where
  recognized : ∀ x ∈ xs, Recognized x
  inside : ∀ x ∈ xs, x.endsStatement = false
  opens : xs.head?.bind Lexeme.mark? = some .openBracket
  closes : xs.getLast?.bind Lexeme.mark? = some .closeBracket
  returns : ∀ n < xs.length, bracketing (xs.take (n + 1)) = 0 ↔ n + 1 = xs.length

/-- The token of a lexeme in an attribute, where each word is an identifier. -/
def Lexeme.attributeToken? (x : Lexeme) : Option Token :=
  match x.kind with
  | .word => some ⟨.identifier x.text, x.position⟩
  | .literal => some ⟨.literal x.text, x.position⟩
  | .punctuation => (Punctuation.ofMark? x.text).map fun m => ⟨.punctuation m, x.position⟩
  | .whitespace | .newline | .comment | .directive => none

variable {s : State} {x : Lexeme} {xs : List Lexeme} {modifiers : List Modifier} {depth : Nat}

theorem Lexeme.bracketing_of_mark? (found : x.mark? = some m) : x.bracketing = m.bracketing := by
  rw [bracketing, found]
  rfl

theorem Lexeme.bracketing_of_kind (kind : x.kind ≠ .punctuation) : x.bracketing = 0 := by
  rw [bracketing, mark?_of_kind kind]
  rfl

theorem bracketing_concat (xs : List Lexeme) (x : Lexeme) :
    bracketing (xs ++ [x]) = bracketing xs + x.bracketing := by
  simp [bracketing]

namespace Statement

/-- While a bracket is open at the start of a statement, only brackets change anything. -/
theorem mark_inAttribute (around : Surroundings) (m : Punctuation) (p : Position)
    (opened : 0 < depth ∨ m = .openBracket) :
    ∃ depth' : Nat, (depth' : Int) = depth + m.bracketing ∧
      (start modifiers depth).mark around m p = (start modifiers depth').stay (.punctuation m) := by
  cases m
  case openBracket => exact ⟨depth + 1, rfl, rfl⟩
  all_goals
    obtain ⟨depth, rfl⟩ := Nat.exists_eq_add_one.mpr (opened.resolve_right nofun)
  case openParen => exact ⟨depth + 2, rfl, rfl⟩
  case closeParen | closeBracket =>
    refine ⟨depth, ?_, rfl⟩
    simp [Punctuation.bracketing]
  all_goals exact ⟨depth + 1, (Int.add_zero _).symm, rfl⟩

theorem Takes.inAttribute {around : Surroundings}
    (taken : (start modifiers depth).Takes around x t)
    (opened : 0 < depth ∨ x.mark? = some .openBracket) :
    ∃ (depth' : Nat) (role : Role), (depth' : Int) = depth + x.bracketing ∧
      t = (start modifiers depth').stay role ∧ x.attributeToken? = some ⟨role, x.position⟩ := by
  cases taken with
  | word kind =>
    have noMark := Lexeme.mark?_of_kind (x := x) (by simp [kind])
    have opened := opened.resolve_right (by simp [noMark])
    refine ⟨depth, .identifier x.text, ?_, ?_, by simp [Lexeme.attributeToken?, kind]⟩
    · rw [Lexeme.bracketing_of_kind (by simp [kind]), Int.add_zero]
    · exact if_pos opened
  | literal kind =>
    have noMark := Lexeme.mark?_of_kind (x := x) (by simp [kind])
    obtain ⟨depth, rfl⟩ := Nat.exists_eq_add_one.mpr (opened.resolve_right (by simp [noMark]))
    refine ⟨depth + 1, .literal x.text, ?_, rfl, by simp [Lexeme.attributeToken?, kind]⟩
    rw [Lexeme.bracketing_of_kind (by simp [kind]), Int.add_zero]
  | @mark m kind found inside =>
    have mark := Lexeme.mark?_eq_some.mpr ⟨kind, found⟩
    rw [mark, Option.some.injEq] at opened
    obtain ⟨depth', brackets, turn⟩ := mark_inAttribute around m x.position opened
    refine ⟨depth', .punctuation m, ?_, turn, by simp [Lexeme.attributeToken?, kind, found]⟩
    rw [Lexeme.bracketing_of_mark? mark, brackets]

theorem exists_takes (recognized : Recognized x) (inside : x.endsStatement = false)
    (kept : x.kind.isTrivia = false) (s : Statement) (around : Surroundings) :
    ∃ t, s.Takes around x t := by
  cases kind : x.kind with
  | word => exact ⟨_, .word kind⟩
  | literal => exact ⟨_, .literal kind⟩
  | punctuation =>
    obtain ⟨m, found⟩ := recognized kind
    rw [Lexeme.endsStatement, Lexeme.mark?_eq_some.mpr ⟨kind, found⟩] at inside
    exact ⟨_, .mark kind found inside⟩
  | whitespace | newline | comment | directive =>
    rw [kind] at kept
    contradiction

end Statement

namespace State

/-- The lexemes of an attribute have been read, and `depth` of its brackets are open. -/
def inAttribute (s : State) (modifiers : List Modifier) (depth : Nat) (xs : List Lexeme) : State :=
  { s with
    tokens := (xs.filterMap Lexeme.attributeToken?).reverse ++ s.tokens
    statement := .start modifiers depth }

/-- Within an attribute each step counts the brackets and adds the lexeme to those of the attribute.
-/
theorem step_inAttribute (s : State) (modifiers : List Modifier) (xs : List Lexeme)
    (recognized : Recognized x) (inside : x.endsStatement = false)
    (opened : 0 < depth ∨ x.mark? = some .openBracket) :
    ∃ depth' : Nat, (depth' : Int) = depth + x.bracketing ∧
      (s.inAttribute modifiers depth xs).step x =
        .ok (s.inAttribute modifiers depth' (xs ++ [x])) := by
  cases kept : x.kind.isTrivia with
  | true =>
    have silent : x.attributeToken? = none := by
      unfold Lexeme.attributeToken?
      cases kind : x.kind <;> simp_all [LexemeKind.isTrivia]
    refine ⟨depth, ?_, ?_⟩
    · rw [Lexeme.bracketing, Lexeme.mark?_of_isTrivia kept]
      rfl
    · rw [step_of_steps (.trivia kept), inAttribute, inAttribute, List.filterMap_append,
        List.filterMap_cons_none silent, List.filterMap_nil, List.append_nil]
  | false =>
    obtain ⟨t, taken⟩ := Statement.exists_takes recognized inside kept (.start modifiers depth)
      (s.inAttribute modifiers depth xs).surroundings
    obtain ⟨depth', role, brackets, rfl, token⟩ := taken.inAttribute opened
    refine ⟨depth', brackets, ?_⟩
    rw [step_of_steps (.turn taken), inAttribute, inAttribute, List.filterMap_append,
      List.filterMap_cons_some token]
    simp [State.turn, Statement.stay]

/-- The brackets that are open in an attribute are those opened and not closed so far. -/
theorem read_inAttribute (bracketed : AttributeSection xs)
    (fresh : s.statement = .start modifiers 0) (within : n ≤ xs.length) :
    ∃ depth : Nat, (depth : Int) = bracketing (xs.take n) ∧
      s.read (xs.take n) = .ok (s.inAttribute modifiers depth (xs.take n)) := by
  -- A bracket is open in front of each lexeme but the first, which opens one.
  induction n with
  | zero =>
    refine ⟨0, rfl, ?_⟩
    obtain ⟨tokens, nesting, statement, events⟩ := s
    obtain rfl : statement = .start modifiers 0 := fresh
    rfl
  | succ n ih =>
    obtain ⟨depth, brackets, read⟩ := ih (Nat.le_of_succ_le within)
    have member := List.getElem_mem within
    have opened : 0 < depth ∨ xs[n].mark? = some .openBracket := by
      cases n with
      | zero =>
        have opens := bracketed.opens
        rw [List.head?_eq_getElem?, List.getElem?_eq_getElem within] at opens
        exact .inr opens
      | succ n =>
        have notZero := mt (bracketed.returns n (Nat.lt_of_succ_lt within)).mp (Nat.ne_of_lt within)
        left
        omega
    obtain ⟨depth', more, step⟩ := s.step_inAttribute modifiers (xs.take n)
      (bracketed.recognized _ member) (bracketed.inside _ member) opened
    refine ⟨depth', ?_, ?_⟩
    · rw [List.take_succ_eq_append_getElem within, bracketing_concat, ← brackets, more]
    · rw [List.take_succ_eq_append_getElem within, read_append, read]
      simp only [Except.bind, State.read, step]

theorem read_bracketed (bracketed : AttributeSection xs)
    (fresh : s.statement = .start modifiers 0) :
    s.read xs =
      .ok { s with tokens := (xs.filterMap Lexeme.attributeToken?).reverse ++ s.tokens } := by
  have closed : bracketing xs = 0 := by
    have opens := bracketed.opens
    cases xs with
    | nil => contradiction
    | cons x xs =>
      have whole := (bracketed.returns xs.length (Nat.lt_succ_self _)).mpr rfl
      rwa [← List.length_cons, List.take_length] at whole
  obtain ⟨depth, brackets, read⟩ := read_inAttribute bracketed fresh (Nat.le_refl xs.length)
  rw [List.take_length] at brackets read
  obtain rfl : depth = 0 := by omega
  rw [read, inAttribute, ← fresh]

/-- Behind `s'` lexemes are read as behind `s`, though other tokens stand in front of them. -/
structure ReadsLike (s' s : State) : Prop where
  ok : ∀ {ys last}, s.read ys = .ok last →
    ∃ new, last.tokens = new ++ s.tokens ∧
      s'.read ys = .ok { last with tokens := new ++ s'.tokens }
  error : ∀ {ys halt}, s.read ys = .error halt →
    ∃ state, s'.read ys = .error ⟨state, halt.error⟩

def silent (ts : List Token) : State :=
  ⟨ts, .empty, .empty, []⟩

theorem within_silent (ts : List Token) (s : State) :
    (silent ts).within s = { s with tokens := s.tokens ++ ts } := by
  have events : s.events.map (Event.deepen 0) = s.events := by
    refine (List.map_congr_left fun event _ => ?_).trans (List.map_id _)
    cases event <;> rfl
  rw [within, silent, Nesting.within_empty]
  simp [Nesting.depth, Nesting.empty, events]

/-- At the start of a statement, the tokens in front do not matter. -/
theorem readsLike_of_start (fresh : s.statement.phase = .start) (ts : List Token) :
    ReadsLike { s with tokens := ts } s := by
  -- Both runs are the run without any tokens in front.
  have begun : Begun { s with tokens := [] } := fun _ => fresh
  have same (us : List Token) :
      { s with tokens := us } = (silent us).within { s with tokens := [] } := by
    rw [within_silent]
    rfl
  have run {ys last} (us : List Token) (read : State.read { s with tokens := [] } ys = .ok last) :
      State.read { s with tokens := us } ys = .ok { last with tokens := last.tokens ++ us } := by
    rw [same, read_within rfl begun read, within_silent]
  have stop {ys halt} (us : List Token)
      (failed : State.read { s with tokens := [] } ys = .error halt) :
      ∃ state, State.read { s with tokens := us } ys = .error ⟨state, halt.error⟩ := by
    rw [same]
    exact read_error_within rfl begun failed
  constructor
  · intro ys last read
    cases alone : State.read { s with tokens := [] } ys with
    | ok mid =>
      obtain rfl := Except.ok.inj ((run s.tokens alone).symm.trans read)
      exact ⟨mid.tokens, rfl, run ts alone⟩
    | error halt =>
      obtain ⟨state, failed⟩ := stop s.tokens alone
      rw [failed] at read
      contradiction
  · intro ys halt failed
    cases alone : State.read { s with tokens := [] } ys with
    | ok mid =>
      rw [run s.tokens alone] at failed
      contradiction
    | error stuck =>
      obtain ⟨_, same⟩ := stop s.tokens alone
      obtain ⟨state, behind⟩ := stop ts alone
      rw [← Except.error.inj (same.symm.trans failed)]
      exact ⟨state, behind⟩

end State

/-- At the start of a statement an attribute is read, its words are identifiers, and but for its
tokens the state is as it was in front of it. So what follows is read as if it were not there. -/
theorem read_attribute_section (s : State) (start : s.statement.phase = .start)
    (outside : s.statement.depth = 0) (bracketed : AttributeSection xs) :
    ∃ next, s.read xs = .ok next ∧
      next = { s with tokens := (xs.filterMap Lexeme.attributeToken?).reverse ++ s.tokens } ∧
        next.ReadsLike s := by
  have fresh : ∃ modifiers, s.statement = .start modifiers 0 := by
    cases statement : s.statement with
    | start modifiers depth =>
      rw [statement] at outside
      obtain rfl : depth = 0 := outside
      exact ⟨modifiers, rfl⟩
    | _ =>
      rw [statement] at start
      contradiction
  obtain ⟨modifiers, fresh⟩ := fresh
  exact ⟨_, State.read_bracketed bracketed fresh, rfl, State.readsLike_of_start start _⟩

/-- A declaration keyword in an attribute, in the body of an enumeration and behind a modifier. -/
theorem read_attribute_section_enum :
    ∃ s next : State,
      s.nesting.inEnumBody = true ∧ s.statement = .start [.publicAccess] 0 ∧
      s.read [⟨.punctuation, "[", .start 0⟩, ⟨.word, "class", .start 1⟩,
        ⟨.punctuation, "(", .start 6⟩, ⟨.punctuation, ")", .start 7⟩,
        ⟨.punctuation, "]", .start 8⟩] = .ok next ∧
      next.tokens.head? = some ⟨.punctuation .closeBracket, .start 8⟩ ∧ next.ReadsLike s := by
  have bracketed : AttributeSection [⟨.punctuation, "[", .start 0⟩, ⟨.word, "class", .start 1⟩,
      ⟨.punctuation, "(", .start 6⟩, ⟨.punctuation, ")", .start 7⟩,
      ⟨.punctuation, "]", .start 8⟩] := by
    constructor
    · decide
    · decide
    · rfl
    · rfl
    · decide
  obtain ⟨next, read, tokens, like⟩ := read_attribute_section
    ⟨[], ⟨[⟨.body .enumDecl, some "E", [], .start 0⟩]⟩, .start [.publicAccess] 0, []⟩ rfl rfl
    bracketed
  refine ⟨_, next, rfl, rfl, read, ?_, like⟩
  rw [tokens]
  rfl

end Highlight
