import Highlight.Proofs.Classification.Retraction

/-! Where statements start among the tokens. A brace and a semicolon start the next one, and so does
a comma between two members of an enumeration, which the tokens alone do not tell from others. -/
namespace Highlight

/-- When there are `n` tokens, nothing of a statement has been read. -/
def StartsBehind (xs : List Lexeme) (n : Nat) : Prop :=
  ∃ before after s, xs = before ++ after ∧ State.initial.read before = .ok s ∧
    s.statement = .empty ∧ s.tokens.length = n

/-- The tokens have the roles in this order behind the last start of a statement. -/
def InStatement (xs : List Lexeme) (ts : List Token) (roles : List Role) : Prop :=
  ∀ n ≤ ts.length, StartsBehind xs n → roles.Sublist ((ts.drop n).map Token.role)

def Role.endsStatement (role : Role) : Bool :=
  role.punctuation?.any Punctuation.endsStatement

def Token.StartsNext (xs : List Lexeme) (front : List Token) (t : Token) : Prop :=
  t.role.endsStatement = true → StartsBehind xs (front.length + 1)

variable {s next : State} {x : Lexeme} {xs ys : List Lexeme} {ts : List Token}

theorem State.Keeps.length_le {old : List Token} (keeps : Keeps old s) :
    old.length ≤ s.tokens.length := by
  rcases keeps with ⟨new, tokens⟩ | ⟨u, new, tokens⟩
  · rw [tokens, List.length_append]
    exact Nat.le_add_left _ _
  · rw [tokens, List.length_append, List.length_modifyHead]
    exact Nat.le_add_left _ _

namespace StartsBehind

theorem here (read : State.initial.read xs = .ok s) (fresh : s.statement = .empty) :
    StartsBehind xs s.tokens.length :=
  ⟨xs, [], s, (List.append_nil xs).symm, read, fresh, rfl⟩

theorem append (starts : StartsBehind xs n) (ys : List Lexeme) : StartsBehind (xs ++ ys) n := by
  obtain ⟨before, after, s, rfl, facts⟩ := starts
  exact ⟨before, after ++ ys, s, List.append_assoc .., facts⟩

theorem length_le (starts : StartsBehind xs n) (read : State.initial.read xs = .ok s) :
    n ≤ s.tokens.length := by
  obtain ⟨before, after, mid, rfl, readBefore, _, rfl⟩ := starts
  obtain ⟨_, same, readAfter⟩ := State.read_append_eq_ok.mp read
  obtain rfl := Except.ok.inj (readBefore.symm.trans same)
  exact (State.read_keeps_tokens readAfter).length_le

/-- A step starts at most one statement, behind all tokens that there are then. -/
theorem of_concat (starts : StartsBehind (xs ++ [x]) n)
    (read : State.initial.read (xs ++ [x]) = .ok next) :
    StartsBehind xs n ∨ next.statement = .empty ∧ next.tokens.length = n := by
  obtain ⟨before, after, s, split, readBefore, fresh, length⟩ := starts
  rcases List.eq_nil_or_concat after with rfl | ⟨after, y, rfl⟩
  · rw [List.append_nil] at split
    obtain rfl := Except.ok.inj (readBefore.symm.trans (split ▸ read))
    exact .inr ⟨fresh, length⟩
  · rw [List.concat_eq_append, ← List.append_assoc] at split
    exact .inl ⟨before, after, s, (List.append_inj' split rfl).1, readBefore, fresh, length⟩

end StartsBehind

namespace InStatement

theorem nil (xs : List Lexeme) (ts : List Token) : InStatement xs ts [] :=
  fun _ _ _ => List.nil_sublist _

theorem sublist (inStatement : InStatement xs ts roles) (part : List.Sublist roles' roles) :
    InStatement xs ts roles' :=
  fun n inside starts => part.trans (inStatement n inside starts)

/-- Only where a statement starts matters. -/
theorem congr (inStatement : InStatement xs ts roles)
    (same : ∀ n ≤ ts.length, StartsBehind ys n → StartsBehind xs n) : InStatement ys ts roles :=
  fun n inside starts => inStatement n inside (same n inside starts)

theorem concat (inStatement : InStatement xs ts roles)
    (inside : ∀ n, StartsBehind xs n → n ≤ ts.length) (t : Token) :
    InStatement xs (ts ++ [t]) (roles ++ [t.role]) := by
  intro n _ starts
  rw [List.drop_append_of_le_length (inside n starts), List.map_append]
  exact (inStatement n (inside n starts) starts).append (List.Sublist.refl _)

end InStatement

namespace State

/-- Behind a brace or a semicolon nothing of a statement has been read. -/
theorem Steps.startsNext (read : State.initial.read xs = .ok s)
    (kept : EachBehind (Token.StartsNext xs) s.tokens.reverse) (steps : s.Steps x next) :
    EachBehind (Token.StartsNext (xs ++ [x])) next.tokens.reverse := by
  have kept : EachBehind (Token.StartsNext (xs ++ [x])) s.tokens.reverse :=
    fun front t back split ends => (kept front t back split ends).append [x]
  have retract {front : List Token} {u : Token} (starts : u.StartsNext (xs ++ [x]) front) :
      u.retract.StartsNext (xs ++ [x]) front := by
    unfold Token.StartsNext Role.endsStatement
    rwa [Token.punctuation?_retract]
  have read := read_concat read steps
  cases steps with
  | trivia => exact kept
  | turn taken =>
    refine eachBehind_turn retract kept fun ends => ?_
    obtain ⟨m, mark, ends⟩ := (Option.any_eq_true ..).mp ends
    rw [taken.inside mark] at ends
    contradiction
  | opened | closed =>
    rw [List.reverse_cons]
    refine kept.concat fun _ => ?_
    rw [List.length_reverse]
    exact .here read rfl
  | semicolon =>
    refine eachBehind_turn retract kept fun _ => ?_
    rw [List.length_reverse]
    exact .here read rfl

theorem read_startsNext (read : State.initial.read xs = .ok s) :
    EachBehind (Token.StartsNext xs) s.tokens.reverse :=
  read_run (P := fun xs s => EachBehind (Token.StartsNext xs) s.tokens.reverse)
    (fun read kept steps => steps.startsNext read kept) read .nil

end State

end Highlight
