import Highlight.Proofs.Classification.Coverage
import Highlight.Proofs.Classification.Regions

/-! The word `record`. Where a declaration keyword may come it is read as one, and the next lexeme
may take that back. Not every lexeme without a name does, and some statements look the word up and
never take it back. -/
namespace Highlight

namespace Statement

/-- A declaration keyword may come next. -/
def awaitsKeyword (s : Statement) (around : Surroundings) : Bool :=
  match s with
  | .start _ 0 => !around.inEnumBody
  | .naming d => d.parts.isEmpty
  | _ => false

/-- A word is looked up in the tables, whatever stands behind it. -/
def looksUp : Statement → Bool
  | .header _ | .parameters _ _ | .plain _ => true
  | .baseList _ _ _ parens => !parens.isEmpty
  | _ => false

end Statement

namespace Role

inductive Spells (w : String) : Role → Prop
  | name (kind : DeclKind) : Spells w (.name kind w)
  | type : Spells w (.type w)
  | typeParameter : Spells w (.typeParameter w)
  | enumMember : Spells w (.enumMember w)
  | identifier : Spells w (.identifier w)

/-- The roles with which a declaration goes on behind its keyword. -/
inductive GoesOn : Role → Prop
  | name (kind : DeclKind) (text : String) : GoesOn (.name kind text)
  | keyword (kind : DeclKind) : GoesOn (.keyword (.declares kind))

/-- The roles of tokens that make a `record` in front of them an ordinary word. -/
inductive TakesBack : Role → Prop
  | literal (text : String) : TakesBack (.literal text)
  | mark (m : Punctuation) (noBrace : m ≠ .openBrace) (noBracket : m ≠ .closeBracket) :
      TakesBack (.punctuation m)

end Role

/-- The roles that a word `record` and the token behind it have in the end, if the word is read in
the state `s`. Where no name follows it may still stay a keyword, and of two in a row the second
alone is taken back. -/
inductive RecordRole (s : State) : Role → Option Role → Prop
  | named (awaits : s.statement.awaitsKeyword s.surroundings = true) (goesOn : next.GoesOn) :
      RecordRole s (.keyword (.declares .recordDecl)) (some next)
  | unnamed (awaits : s.statement.awaitsKeyword s.surroundings = true)
      (missed : next = .punctuation .openBrace ∨ next = .punctuation .closeBracket ∨
        next = .identifier "record") :
      RecordRole s (.keyword (.declares .recordDecl)) (some next)
  | takenBack (awaits : s.statement.awaitsKeyword s.surroundings = true)
      (takesBack : next.TakesBack) : RecordRole s (.identifier "record") (some next)
  | lookedUp (elsewhere : s.statement.awaitsKeyword s.surroundings = false)
      (looksUp : s.statement.looksUp = true) (next? : Option Role) :
      RecordRole s (.keyword (.declares .recordDecl)) next?
  | spelled (elsewhere : s.statement.awaitsKeyword s.surroundings = false)
      (other : s.statement.looksUp = false) (spells : role.Spells "record")
      (next? : Option Role) : RecordRole s role next?

/-- A `record` keyword is a word `record` that was read when there were the tokens `front`. -/
def Token.ReadAsRecord (xs : List Lexeme) (front : List Token) (t : Token) : Prop :=
  t.role = .keyword (.declares .recordDecl) →
    ∃ before after s, xs = before ++ ⟨.word, "record", t.position⟩ :: after ∧
      State.initial.read before = .ok s ∧ s.tokens.reverse = front

/-- Where the word `record` is a keyword among the tokens, and what it is elsewhere. -/
structure RecordWords (xs : List Lexeme) (ts : List Token) : Prop where
  keywords : EachBehind (Token.ReadAsRecord xs) ts
  words : ∀ before p after, xs = before ++ ⟨.word, "record", p⟩ :: after →
    ∃ s role back, State.initial.read before = .ok s ∧
      ts = s.tokens.reverse ++ ⟨role, p⟩ :: back ∧
      RecordRole s role (back.head?.map Token.role)

namespace OnWord

variable {s : Statement} {t : Turn}

/-- Where a declaration keyword may come next, `record` is one for now. -/
theorem record_awaits (onWord : OnWord around "record" p s t)
    (awaits : s.awaitsKeyword around = true) :
    t.role = .keyword (.declares .recordDecl) ∧ t.statement.retractable = true := by
  have keyword : Keyword.ofWord? "record" = some (.declares .recordDecl) := rfl
  cases onWord with
  | @inAttribute depth _ inside =>
    cases depth with
    | zero => contradiction
    | succ => contradiction
  | member body => simp [Statement.awaitsKeyword, body] at awaits
  | modifier _ found =>
    have noModifier : Modifier.ofWord? "record" = none := rfl
    rw [noModifier] at found
    contradiction
  | declares _ found =>
    cases found.symm.trans keyword
    exact ⟨rfl, rfl⟩
  | ordinary _ other => exact absurd keyword (other _)
  | redeclares _ found =>
    cases found.symm.trans keyword
    exact ⟨rfl, awaits⟩
  | named other => exact absurd keyword (other (List.isEmpty_iff.mp awaits) _)
  | _ => contradiction

/-- Elsewhere no step takes `record` back, and the tables alone may make it a keyword. -/
theorem record_elsewhere (onWord : OnWord around "record" p s t)
    (elsewhere : s.awaitsKeyword around = false) :
    t.statement.retractable = false ∧
      if s.looksUp then t.role = .keyword (.declares .recordDecl) else t.role.Spells "record" := by
  cases onWord with
  | modifier outside | declares outside | ordinary outside =>
    simp [Statement.awaitsKeyword, outside] at elsewhere
  | redeclares unnamed => simp [Statement.awaitsKeyword, unnamed] at elsewhere
  | headerClause _ text | baseClause _ text | baseWhere _ text => exact absurd text (by decide)
  | variance _ found =>
    have noVariance : Modifier.variance? "record" = none := rfl
    rw [noVariance] at found
    contradiction
  | nextClause found | constraintKeyword found =>
    have noKeyword : Keyword.ofConstraintWord? "record" = none := rfl
    rw [noKeyword] at found
    contradiction
  | headerWord | parameter | plain => exact ⟨rfl, rfl⟩
  | @baseArgument parens _ _ _ inside =>
    cases parens with
    | nil => contradiction
    | cons => exact ⟨rfl, rfl⟩
  | inAttribute | surplus => exact ⟨rfl, .identifier⟩
  | member => exact ⟨rfl, .enumMember⟩
  | named => exact ⟨rfl, .name _⟩
  | typeParameter => exact ⟨rfl, .typeParameter⟩
  | parameterArgument | baseType | constraintArgument | constraintType => exact ⟨rfl, .type⟩

theorem goesOn (onWord : OnWord around w p (.naming d) t) : t.role.GoesOn := by
  cases onWord with
  | redeclares => exact .keyword _
  | named => exact .name _ _

end OnWord

namespace Statement

/-- A name is still awaited behind `]`. Any other mark gives it up. -/
theorem mark_naming (d : Declaration) (around : Surroundings) (p : Position) {m : Punctuation}
    (other : m ≠ .closeBracket) :
    ((Statement.naming d).mark around m p).role = .punctuation m ∧
      ((Statement.naming d).mark around m p).retracts = d.parts.isEmpty := by
  cases m <;> first | contradiction | exact ⟨rfl, rfl⟩

theorem Takes.keyword {k : Keyword} (taken : Takes s around x t) (keyword : t.role = .keyword k) :
    x.kind = .word ∧ t.retracts = false := by
  rcases taken.role_cases with ⟨kind, onWord⟩ | ⟨_, role⟩ | ⟨_, role⟩
  · exact ⟨kind, onWord.retracts⟩
  · exact nomatch role.symm.trans keyword
  · exact nomatch role.symm.trans keyword

end Statement

namespace Token

variable {t : Token}

theorem retract_eq (t : Token) : t.retract = t ∨
    t.role = .keyword (.declares .recordDecl) ∧ t.retract.role = .identifier "record" := by
  unfold retract
  split
  · next keyword => exact .inr ⟨keyword, rfl⟩
  · exact .inl rfl

theorem ReadAsRecord.retract : Token.ReadAsRecord xs front t.retract := by
  intro keyword
  unfold Token.retract at keyword
  split at keyword
  · contradiction
  · contradiction

theorem ReadAsRecord.append (readAs : t.ReadAsRecord xs front) (ys : List Lexeme) :
    t.ReadAsRecord (xs ++ ys) front := by
  intro keyword
  obtain ⟨before, after, s, rfl, facts⟩ := readAs keyword
  exact ⟨before, after ++ ys, s, List.append_assoc .., facts⟩

end Token

namespace State

variable {s next last : State} {x : Lexeme} {xs : List Lexeme} {t : Turn}

theorem tokens_turn_of_retracts (retracts : t.retracts = true) (s : State) (p : Position) :
    (s.turn p t).tokens = ⟨t.role, p⟩ :: s.tokens.modifyHead Token.retract := by
  simp [turn, retracts]

/-- What the next token does to a keyword that waits for its name. -/
theorem Steps.behindKeyword (steps : s.Steps x next) (kept : x.kind.isTrivia = false)
    (awaits : s.statement.retractable = true) :
    ∃ u : Token, next.tokens = u :: s.tokens ∧ (u.role.GoesOn ∨
        u.role = .punctuation .openBrace ∨ u.role = .punctuation .closeBracket) ∨
      next.tokens = u :: s.tokens.modifyHead Token.retract ∧ u.role.TakesBack := by
  have waiting : ∃ d, s.statement = .naming d ∧ d.parts.isEmpty = true := by
    cases statement : s.statement with
    | naming d =>
      rw [statement] at awaits
      exact ⟨d, rfl, awaits⟩
    | _ =>
      rw [statement] at awaits
      contradiction
  obtain ⟨d, naming, unnamed⟩ := waiting
  cases steps with
  | trivia trivia => exact absurd (trivia.symm.trans kept) (by decide)
  | opened => exact ⟨_, .inl ⟨rfl, .inr (.inl rfl)⟩⟩
  | closed _ _ closed =>
    rw [Statement.retractable_of_openRegion? closed] at awaits
    contradiction
  | semicolon =>
    have retracts := (Statement.retracts_leave s.statement (.punctuation .semicolon)).trans awaits
    refine ⟨_, .inr ⟨tokens_turn_of_retracts retracts s x.position, ?_⟩⟩
    rw [Statement.role_leave]
    exact .mark _ nofun nofun
  | turn taken =>
    rw [naming] at taken
    cases taken with
    | word =>
      have onWord := Statement.onWord_word (.naming d) s.surroundings x.text x.position
      exact ⟨_, .inl ⟨tokens_turn onWord.retracts s x.position, .inl onWord.goesOn⟩⟩
    | literal =>
      have retracts := (Statement.retracts_leave (.naming d) (.literal x.text)).trans unnamed
      exact ⟨_, .inr ⟨tokens_turn_of_retracts retracts s x.position, .literal _⟩⟩
    | @mark m _ _ inside =>
      by_cases bracket : m = .closeBracket
      · subst bracket
        exact ⟨_, .inl ⟨rfl, .inr (.inr rfl)⟩⟩
      · obtain ⟨role, retracts⟩ :=
          Statement.mark_naming d s.surroundings x.position bracket
        refine ⟨_, .inr ⟨tokens_turn_of_retracts (retracts.trans unnamed) s x.position, ?_⟩⟩
        rw [role]
        refine .mark m ?_ bracket
        rintro rfl
        contradiction

/-- Trivia leaves the state as it is. -/
theorem exists_step (read : s.read xs = .ok last) (changed : last ≠ s) :
    ∃ x next rest, x.kind.isTrivia = false ∧ s.Steps x next ∧ next.read rest = .ok last := by
  induction xs with
  | nil => exact absurd (Except.ok.inj read).symm changed
  | cons x xs ih =>
    unfold State.read at read
    split at read
    · contradiction
    · next stepped =>
      cases trivia : x.kind.isTrivia with
      | false => exact ⟨x, _, xs, trivia, steps_of_step stepped, read⟩
      | true =>
        cases (step_of_steps (.trivia trivia)).symm.trans stepped
        exact ih read

/-- The newest token is the one that may lose its role as a keyword. -/
theorem exists_newest {u : Token} (read : s.read xs = .ok last) (tokens : s.tokens = u :: earlier) :
    ∃ new v, last.tokens = new ++ v :: earlier ∧ (v = u ∨
      u.role = .keyword (.declares .recordDecl) ∧ v.role = .identifier "record") := by
  rcases read_keeps_tokens read with ⟨new, kept⟩ | ⟨w, new, retracted⟩
  · exact ⟨new, u, by rw [kept, tokens], .inl rfl⟩
  · exact ⟨w :: new, u.retract, by rw [retracted, tokens]; rfl, u.retract_eq⟩

/-- Steps make no `record` keyword but from the word. -/
theorem Steps.readAsRecord (read : State.initial.read xs = .ok s)
    (kept : EachBehind (Token.ReadAsRecord xs) s.tokens.reverse) (steps : s.Steps x next) :
    EachBehind (Token.ReadAsRecord (xs ++ [x])) next.tokens.reverse := by
  have kept : EachBehind (Token.ReadAsRecord (xs ++ [x])) s.tokens.reverse :=
    fun front t back split => (kept front t back split).append [x]
  cases steps with
  | trivia => exact kept
  | turn taken =>
    refine eachBehind_turn (fun _ => .retract) kept fun keyword => ?_
    obtain ⟨kind, stays⟩ := taken.keyword keyword
    have text : x.text = "record" := taken.text.symm.trans (congrArg Role.text keyword)
    obtain ⟨_, _, p⟩ := x
    obtain rfl := kind
    obtain rfl := text
    exact ⟨xs, [], s, rfl, read, by rw [tokens_turn stays, List.tail_cons]⟩
  | opened | closed =>
    rw [List.reverse_cons]
    exact kept.concat nofun
  | semicolon =>
    refine eachBehind_turn (fun _ => .retract) kept fun keyword => ?_
    rw [Statement.role_leave] at keyword
    contradiction

theorem read_readAsRecord (read : State.initial.read xs = .ok s) :
    EachBehind (Token.ReadAsRecord xs) s.tokens.reverse :=
  read_run (P := fun xs s => EachBehind (Token.ReadAsRecord xs) s.tokens.reverse)
    (fun read kept steps => steps.readAsRecord read kept) read .nil

/-- A word `record` that may be a keyword has its role for good behind the next token. -/
theorem exists_role_of_awaits (taken : OnWord s.surroundings "record" p s.statement t)
    (awaits : s.statement.awaitsKeyword s.surroundings = true)
    (read : (s.turn p t).read xs = .ok last) (closed : last.open? = none) :
    ∃ role next back, last.tokens.reverse = s.tokens.reverse ++ ⟨role, p⟩ :: next :: back ∧
      RecordRole s role (some next.role) := by
  obtain ⟨keyword, retractable⟩ := taken.record_awaits awaits
  have tokens := tokens_turn taken.retracts s p
  rw [keyword] at tokens
  have changed : last ≠ s.turn p t := by
    rintro rfl
    have quiet := Statement.retractable_of_openRegion? (open?_eq_none.mp closed).1
    exact absurd (quiet.symm.trans retractable) Bool.false_ne_true
  obtain ⟨y, next, rest, kept, steps, readOn⟩ := exists_step read changed
  obtain ⟨u, ⟨pushed, follows⟩ | ⟨retracted, takesBack⟩⟩ := steps.behindKeyword kept retractable
  · rw [tokens] at pushed
    obtain ⟨new, v, all, same⟩ := exists_newest readOn pushed
    refine ⟨.keyword (.declares .recordDecl), v, new.reverse, by rw [all]; simp, ?_⟩
    rcases same with rfl | ⟨_, second⟩
    · rcases follows with goesOn | brace | bracket
      · exact .named awaits goesOn
      · exact .unnamed awaits (.inl brace)
      · exact .unnamed awaits (.inr (.inl bracket))
    · exact .unnamed awaits (.inr (.inr second))
  · have ordinary : Token.retract ⟨.keyword (.declares .recordDecl), p⟩ =
      ⟨.identifier "record", p⟩ := rfl
    rw [tokens, List.modifyHead_cons, ordinary] at retracted
    obtain ⟨new, v, all, same⟩ := exists_newest readOn retracted
    refine ⟨.identifier "record", v, new.reverse, by rw [all]; simp, ?_⟩
    rcases same with rfl | ⟨second, _⟩
    · exact .takenBack awaits takesBack
    · rw [second] at takesBack
      contradiction

theorem exists_role_of_elsewhere (taken : OnWord s.surroundings "record" p s.statement t)
    (elsewhere : s.statement.awaitsKeyword s.surroundings = false)
    (read : (s.turn p t).read xs = .ok last) :
    ∃ role back, last.tokens.reverse = s.tokens.reverse ++ ⟨role, p⟩ :: back ∧
      RecordRole s role (back.head?.map Token.role) := by
  obtain ⟨quiet, role⟩ := taken.record_elsewhere elsewhere
  have settled : Settled (s.turn p t).tokens (s.turn p t) := ⟨[], rfl, fun _ => quiet⟩
  obtain ⟨new, kept, _⟩ := read_settled settled read
  refine ⟨t.role, new.reverse, by rw [kept, tokens_turn taken.retracts]; simp, ?_⟩
  cases looksUp : s.statement.looksUp with
  | true =>
    rw [looksUp, if_pos rfl] at role
    rw [role]
    exact .lookedUp elsewhere looksUp _
  | false =>
    rw [looksUp, if_neg Bool.false_ne_true] at role
    exact .spelled elsewhere looksUp role _

/-- What becomes of a word `record` can be told from the state in front of it and the token behind
it. -/
theorem exists_recordRole (stepped : s.step ⟨.word, "record", p⟩ = .ok next)
    (read : next.read xs = .ok last) (closed : last.open? = none) :
    ∃ role back, last.tokens.reverse = s.tokens.reverse ++ ⟨role, p⟩ :: back ∧
      RecordRole s role (back.head?.map Token.role) := by
  obtain rfl := Except.ok.inj stepped
  have taken := Statement.onWord_word s.statement s.surroundings "record" p
  cases awaits : s.statement.awaitsKeyword s.surroundings with
  | true =>
    obtain ⟨role, next, back, tokens, recordRole⟩ :=
      exists_role_of_awaits taken awaits read closed
    exact ⟨role, next :: back, tokens, recordRole⟩
  | false => exact exists_role_of_elsewhere taken awaits read

end State

/-- Every `record` of a text, in the roles that the tokens have in the end. -/
theorem recordWords_of_classify (classified : classify xs = .ok ts) : RecordWords xs ts := by
  obtain ⟨last, read, closed, rfl⟩ := classify_eq_ok.mp classified
  refine ⟨State.read_readAsRecord read, ?_⟩
  rintro before p after rfl
  obtain ⟨s, readBefore, readAfter⟩ := State.read_append_eq_ok.mp read
  unfold State.read at readAfter
  split at readAfter
  · contradiction
  · next stepped =>
    obtain ⟨role, back, tokens, recordRole⟩ := State.exists_recordRole stepped readAfter closed
    exact ⟨s, role, back, readBefore, tokens, recordRole⟩

/-- Of two in a row, the second is taken back, and the first is a keyword without a name. -/
theorem recordWords_twice :
    ∃ xs ts,
      xs =
        [⟨.word, "record", .start 0⟩, ⟨.word, "record", .start 7⟩, ⟨.punctuation, ";", .start 13⟩] ∧
      classify xs = .ok ts ∧
      ts.map Token.role =
        [.keyword (.declares .recordDecl), .identifier "record", .punctuation .semicolon] ∧
      RecordWords xs ts :=
  ⟨_, _, rfl, rfl, rfl, recordWords_of_classify rfl⟩

/-- A brace does not take the word back. -/
theorem record_block :
    ¬∀ xs ts, classify xs = .ok ts → ∀ front p back,
      ts = front ++ ⟨.keyword (.declares .recordDecl), p⟩ :: back →
      ∃ next rest, back = next :: rest ∧ next.role.GoesOn := by
  intro all
  obtain ⟨next, rest, same, goesOn⟩ := all
    [⟨.word, "record", .start 0⟩, ⟨.punctuation, "\x7b", .start 7⟩,
      ⟨.punctuation, "\x7d", .start 9⟩] _ rfl [] _ _ rfl
  cases same
  cases goesOn

end Highlight
