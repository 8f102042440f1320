import Highlight.Proofs.Classification.Failure
import Highlight.Proofs.Classification.Regions
import Highlight.Proofs.Classification.Relocation

/-! Members of an enumeration behind a comma. A comma starts the next slot for a member when its own
slot has been filled. In an empty slot, with attributes at most, it is read like any other mark, and
no member can be read up to the next comma. -/
namespace Highlight

/-- No member has been read since the statement behind the tokens was last fresh. -/
def NoMemberSince (xs : List Lexeme) (ts : List Token) : Prop :=
  ∃ n ≤ ts.length, StartsBehind xs n ∧ ∀ t ∈ ts.drop n, ∀ text, t.role ≠ .enumMember text

/-- The role of the word `w` right behind a comma outside of all brackets in the body of an
enumeration, if the state in front of the comma is `s`. -/
inductive MemberRole (before : List Lexeme) (s : State) (w : String) : Role → Prop
  | member (filled : s.statement.phase = .other) : MemberRole before s w (.enumMember w)
  | lookedUp (start : s.statement.phase = .start)
      (empty : NoMemberSince before s.tokens.reverse) : MemberRole before s w (.ofWord w)

namespace NoMemberSince

variable {xs : List Lexeme} {ts : List Token}

theorem fresh (read : State.initial.read xs = .ok s) (empty : s.statement = .empty) :
    NoMemberSince xs s.tokens.reverse := by
  refine ⟨s.tokens.length, (List.length_reverse).ge, .here read empty, ?_⟩
  rw [List.drop_of_length_le (List.length_reverse).le]
  nofun

theorem append (noMember : NoMemberSince xs ts) (ys : List Lexeme) :
    NoMemberSince (xs ++ ys) ts := by
  obtain ⟨n, inside, starts, others⟩ := noMember
  exact ⟨n, inside, starts.append ys, others⟩

theorem concat (noMember : NoMemberSince xs ts) (other : ∀ text, t.role ≠ .enumMember text) :
    NoMemberSince xs (ts ++ [t]) := by
  obtain ⟨n, inside, starts, others⟩ := noMember
  refine ⟨n, ?_, starts, fun u member => ?_⟩
  · rw [List.length_append]
    exact inside.trans (Nat.le_add_right _ _)
  · rw [List.drop_append_of_le_length inside] at member
    rcases List.mem_append.mp member with member | last
    · exact others u member
    · exact List.mem_singleton.mp last ▸ other

end NoMemberSince

/-- A member leaves the start of its statement. -/
theorem OnWord.start_of_phase (onWord : OnWord around w p s t)
    (start : t.statement.phase = .start) :
    s.phase = .start ∧ ∀ text, t.role ≠ .enumMember text := by
  cases onWord with
  | inAttribute | modifier => exact ⟨rfl, nofun⟩
  | _ => contradiction

theorem OnMark.start_of_phase (onMark : OnMark around p s m t)
    (start : t.statement.phase = .start) : t.statement = .empty ∨ s.phase = .start := by
  have kept : KeepsHeader s t.statement → s.phase = .start := fun kept =>
    kept.phase_eq start (by decide)
  cases onMark with
  | passes => exact .inr start
  | leaves => exact .inr (kept (Statement.keepsHeader_leave s _))
  | deepens => exact .inr (kept (Statement.keepsHeader_deepen_leave s _))
  | nests => exact .inr (kept (Statement.keepsHeader_deepen s))
  | lifts => exact .inr (kept (Statement.keepsHeader_lift s))
  | nextMember => exact .inl rfl
  | _ => contradiction

namespace Statement

/-- A turn that leads to the start of a statement begins a new one, or stays there and gives no
member. -/
theorem Takes.start_of_phase (taken : Takes s around x t) (start : t.statement.phase = .start) :
    t.statement = .empty ∨ s.phase = .start ∧ ∀ text, t.role ≠ .enumMember text := by
  cases taken with
  | word => exact .inr ((onWord_word s around x.text x.position).start_of_phase start)
  | literal =>
    refine .inr ⟨(keepsHeader_leave s _).phase_eq start (by decide), fun text member => ?_⟩
    rw [Statement.literal, role_leave] at member
    contradiction
  | @mark m =>
    have onMark := onMark_mark s around m x.position
    refine (onMark.start_of_phase start).imp_right fun start => ⟨start, fun text member => ?_⟩
    rcases onMark.role_eq with role | ⟨_, _, role⟩ <;>
    · rw [role] at member
      contradiction

/-- Outside of brackets a statement that declares nothing is at its start, or is plain. -/
theorem start_or_plain {s : Statement} (declaresNothing : s.declaration? = none)
    (outside : s.depth = 0) : (∃ modifiers, s = .start modifiers 0) ∨ s = .plain 0 := by
  cases s with
  | start modifiers depth =>
    obtain rfl : depth = 0 := outside
    exact .inl ⟨modifiers, rfl⟩
  | plain depth =>
    obtain rfl : depth = 0 := outside
    exact .inr rfl
  | _ => contradiction

/-- The first word of a member is its name. -/
theorem word_empty (body : around.inEnumBody = true) (w : String) (p : Position) :
    empty.word around w p = (plain 0).enter (.enumMember w) := by
  simp [empty, word, leadingWord, body]

end Statement

namespace State

variable {s next last : State} {x comma word : Lexeme} {xs before between after : List Lexeme}

/-- At the start of a statement no member has been read in it. -/
theorem Steps.noMemberSince (read : State.initial.read xs = .ok s)
    (kept : s.statement.phase = .start → NoMemberSince xs s.tokens.reverse)
    (steps : s.Steps x next) (start : next.statement.phase = .start) :
    NoMemberSince (xs ++ [x]) next.tokens.reverse := by
  have readNext := read_concat read steps
  cases steps with
  | trivia => exact (kept start).append [x]
  | opened | closed | semicolon => exact .fresh readNext rfl
  | @turn t taken =>
    rcases taken.start_of_phase start with empty | ⟨before, other⟩
    · exact .fresh readNext empty
    · have stays := taken.retracts_eq_false fun depth plain => by
        rw [State.turn, plain] at start
        contradiction
      rw [tokens_turn stays, List.reverse_cons]
      exact ((kept before).append [x]).concat other

theorem read_noMemberSince (read : State.initial.read xs = .ok s)
    (start : s.statement.phase = .start) : NoMemberSince xs s.tokens.reverse :=
  read_run (P := fun xs s => s.statement.phase = .start → NoMemberSince xs s.tokens.reverse)
    (fun read kept steps start => steps.noMemberSince read kept start) read
    (fun _ => .fresh rfl rfl) start

theorem step_comma (mark : x.mark? = some .comma) (s : State) :
    s.step x = .ok (s.turn x.position (s.statement.comma s.surroundings)) := by
  obtain ⟨kind, found⟩ := Lexeme.mark?_eq_some.mp mark
  exact step_of_steps (.turn (.mark kind found rfl))

theorem read_trivia (trivia : ∀ y ∈ xs, y.kind.isTrivia = true) (s : State) :
    s.read xs = .ok s := by
  have nothing : significant xs = [] := by
    simpa [significant, List.filter_eq_nil_iff] using trivia
  rw [← read_significant, nothing]
  rfl

theorem step_word (kind : x.kind = .word)
    (word : s.statement.word s.surroundings x.text x.position = t) :
    s.step x = .ok (s.turn x.position t) := by
  rw [← word]
  exact step_of_steps (.turn (.word kind))

/-- Behind the comma the word makes the statement plain, or finds it so. -/
theorem exists_step_behind_comma (read : State.initial.read before = .ok s)
    (body : s.nesting.kind? = some (.body .enumDecl)) (outside : s.statement.depth = 0)
    (kind : word.kind = .word) (p : Position) :
    ∃ role next, (s.turn p (s.statement.comma s.surroundings)).step word = .ok next ∧
      next.tokens = ⟨role, word.position⟩ :: ⟨.punctuation .comma, p⟩ :: s.tokens ∧
      next.statement = .plain 0 ∧ MemberRole before s word.text role := by
  have inBody : s.nesting.inEnumBody = true := decide_eq_true body
  have declaresNothing : s.statement.declaration? = none := by
    by_contra declares
    have outer := (read_listsKept read).outside (Option.isSome_iff_ne_none.mpr declares)
    exact absurd (inBody.symm.trans outer) (by decide)
  rcases Statement.start_or_plain declaresNothing outside with ⟨modifiers, start⟩ | plain
  · have comma : s.statement.comma s.surroundings =
        (Statement.plain 0).enter (.punctuation .comma) := by
      rw [start]
      rfl
    have phase : s.statement.phase = .start := by rw [start]; rfl
    rw [comma]
    exact ⟨_, _, step_word kind rfl, rfl, rfl, .lookedUp phase (read_noMemberSince read phase)⟩
  · have comma : s.statement.comma s.surroundings =
        Statement.empty.stay (.punctuation .comma) := by
      rw [plain]
      exact if_pos inBody
    have phase : s.statement.phase = .other := by rw [plain]; rfl
    rw [comma]
    exact ⟨_, _, step_word kind (Statement.word_empty inBody _ _), rfl, rfl, .member phase⟩

end State

/-- Every word right behind a comma between members. -/
theorem memberRole_behind_comma (classified : classify xs = .ok ts)
    (split : xs = before ++ comma :: (between ++ word :: after)) (mark : comma.mark? = some .comma)
    (trivia : ∀ y ∈ between, y.kind.isTrivia = true) (kind : word.kind = .word)
    (readBefore : State.initial.read before = .ok s)
    (body : s.nesting.kind? = some (.body .enumDecl)) (outside : s.statement.depth = 0) :
    ∃ role back, ts = s.tokens.reverse ++ ⟨.punctuation .comma, comma.position⟩ ::
        ⟨role, word.position⟩ :: back ∧ MemberRole before s word.text role := by
  obtain ⟨last, read, _, rfl⟩ := classify_eq_ok.mp classified
  obtain ⟨role, next, stepped, tokens, plain, memberRole⟩ :=
    State.exists_step_behind_comma readBefore body outside kind comma.position
  have readAfter : next.read after = .ok last := by
    rw [split, State.read_append, readBefore] at read
    simp only [Except.bind, State.read, State.step_comma mark, State.read_append,
      State.read_trivia trivia, stepped] at read
    exact read
  have settled : State.Settled next.tokens next := ⟨[], rfl, fun _ => by rw [plain]; rfl⟩
  obtain ⟨new, all, _⟩ := State.read_settled settled readAfter
  exact ⟨role, new.reverse, by rw [all, tokens]; simp, memberRole⟩

/-- Behind the value of a member the next one is read: `enum E { A = 1, B }`. -/
theorem memberRole_behind_value :
    ∃ xs ts before comma between word after s,
      before =
        [⟨.word, "enum", .start 0⟩, ⟨.word, "E", .start 5⟩, ⟨.punctuation, "\x7b", .start 7⟩,
          ⟨.word, "A", .start 9⟩, ⟨.punctuation, "=", .start 11⟩, ⟨.literal, "1", .start 13⟩] ∧
      comma = ⟨.punctuation, ",", .start 14⟩ ∧ between = [⟨.whitespace, " ", .start 15⟩] ∧
      word = ⟨.word, "B", .start 16⟩ ∧ after = [⟨.punctuation, "\x7d", .start 18⟩] ∧
      classify xs = .ok ts ∧ xs = before ++ comma :: (between ++ word :: after) ∧
      comma.mark? = some .comma ∧ (∀ y ∈ between, y.kind.isTrivia = true) ∧ word.kind = .word ∧
      State.initial.read before = .ok s ∧ s.nesting.kind? = some (.body .enumDecl) ∧
      s.statement.depth = 0 ∧ s.statement.phase = .other ∧
      ∃ role back, ts = s.tokens.reverse ++ ⟨.punctuation .comma, comma.position⟩ ::
        ⟨role, word.position⟩ :: back ∧ MemberRole before s word.text role := by
  have roles {xs ts s} := @memberRole_behind_comma xs ts
    [⟨.word, "enum", .start 0⟩, ⟨.word, "E", .start 5⟩, ⟨.punctuation, "\x7b", .start 7⟩,
      ⟨.word, "A", .start 9⟩, ⟨.punctuation, "=", .start 11⟩, ⟨.literal, "1", .start 13⟩]
    ⟨.punctuation, ",", .start 14⟩ [⟨.whitespace, " ", .start 15⟩] ⟨.word, "B", .start 16⟩
    [⟨.punctuation, "\x7d", .start 18⟩] s
  have trivia : ∀ y ∈ [(⟨.whitespace, " ", .start 15⟩ : Lexeme)], y.kind.isTrivia = true := by
    decide
  exact ⟨_, _, _, _, _, _, _, _, rfl, rfl, rfl, rfl, rfl, rfl, rfl, rfl, trivia, rfl, rfl, rfl, rfl,
    rfl, roles rfl rfl rfl trivia rfl rfl rfl rfl⟩

/-- A comma in an empty slot does not start the next one: `enum E { , A }`. -/
theorem no_member_behind_empty_slot :
    ¬∀ xs ts before comma between word after s, classify xs = .ok ts →
      xs = before ++ comma :: (between ++ word :: after) → comma.mark? = some .comma →
      (∀ y ∈ between, y.kind.isTrivia = true) → word.kind = .word →
      State.initial.read before = .ok s → s.nesting.kind? = some (.body .enumDecl) →
      s.statement.depth = 0 →
      ∃ front back, ts = front ++ ⟨.enumMember word.text, word.position⟩ :: back ∧
        front.length = s.tokens.length + 1 := by
  intro all
  obtain ⟨front, back, split, length⟩ := all _
    [⟨.keyword (.declares .enumDecl), .start 0⟩, ⟨.name .enumDecl "E", .start 5⟩,
      ⟨.punctuation .openBrace, .start 7⟩, ⟨.punctuation .comma, .start 9⟩,
      ⟨.identifier "A", .start 11⟩, ⟨.punctuation .closeBrace, .start 13⟩]
    [⟨.word, "enum", .start 0⟩, ⟨.word, "E", .start 5⟩, ⟨.punctuation, "\x7b", .start 7⟩]
    ⟨.punctuation, ",", .start 9⟩ [] ⟨.word, "A", .start 11⟩
    [⟨.punctuation, "\x7d", .start 13⟩] _ rfl rfl rfl (by decide) rfl rfl rfl rfl
  have behind := congrArg (List.drop front.length) split
  rw [List.drop_left, length] at behind
  cases behind

end Highlight
