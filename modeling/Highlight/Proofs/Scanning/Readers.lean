import Highlight.Proofs.Lexeme.Rewriting
import Highlight.Proofs.Scanning.Scan

/-! Where the readers of a scan come to. They pass as many characters as the lengths of literals and
comments say, and they fail where these do. -/
namespace Highlight

namespace Scan

def Runs (s t : Scan) : Prop :=
  Relation.ReflTransGen Steps s t

/-- Nothing is pending. -/
def on (s : Scan) (k : Cursor) (frames : List Frame) : Scan :=
  { s with cursor := k, skips := 0, escape := false, frames }

def Fails (s : Scan) (e : LexError) : Prop :=
  ∃ t, s.Runs t ∧ t.step = .ok (.failed e)

variable {s t u : Scan} {k : Cursor} {front taken rest : List Char} {c : Char} {r : List Char}
  {point next reader : Point} {p : Position} {f : Frame} {below : List Frame}

theorem Runs.refl (s : Scan) : s.Runs s := Relation.ReflTransGen.refl

theorem Runs.trans (first : s.Runs t) (second : t.Runs u) : s.Runs u :=
  Relation.ReflTransGen.trans first second

theorem runs_of_step (step : s.step = .ok (.more t)) : s.Runs t :=
  Relation.ReflTransGen.single step

theorem Runs.fails (runs : s.Runs t) (fails : t.Fails e) : s.Fails e := by
  obtain ⟨u, further, failed⟩ := fails
  exact ⟨u, runs.trans further, failed⟩

theorem runs_skip (taken : List Char) (between : s.cursor.Between front (taken ++ rest)) :
    { s with skips := taken.length }.Runs
      { s with cursor := s.cursor.after taken, skips := 0 } := by
  induction taken generalizing s front with
  | nil => exact .refl _
  | cons c taken ih =>
    have first := step_skip (s := { s with skips := taken.length + 1 }) between (Nat.succ_pos _)
    have behind := ih (s := { s with cursor := s.cursor.after [c] }) between.next
    exact (runs_of_step first).trans behind

theorem runs_pass (between : k.Between front rest) (inside : n ≤ rest.length)
    (moves : point.moveAt rest = .pass n next) :
    (s.on k (⟨point, p⟩ :: below)).Runs (s.on (k.after (rest.take n)) (⟨next, p⟩ :: below)) := by
  have first := step_act (s := s.on k (⟨point, p⟩ :: below)) between rfl rfl rfl moves
  rw [← List.take_append_drop n rest] at between
  have second := runs_skip (s := s.on k (⟨next, p⟩ :: below)) (rest.take n) between
  rw [List.length_take_of_le inside] at second
  exact (runs_of_step first).trans second

theorem runs_pass_one (between : k.Between front (c :: r))
    (moves : point.moveAt (c :: r) = .pass 1 next) :
    (s.on k (⟨point, p⟩ :: below)).Runs (s.on (k.after [c]) (⟨next, p⟩ :: below)) :=
  runs_pass between (Nat.le_add_left ..) moves

/-- Behind a backslash one more character is skipped, unless the line ends there. -/
theorem runs_escape (between : k.Between front (c :: r))
    (moves : point.moveAt (c :: r) = .escape next) :
    (s.on k (⟨point, p⟩ :: below)).Runs
      (s.on (k.after (c :: r.take (if r.head?.any (!isLineBreak ·) then 1 else 0)))
        (⟨next, p⟩ :: below)) := by
  have first := step_act (s := s.on k (⟨point, p⟩ :: below)) between rfl rfl rfl moves
  have second := runs_skip (s := { s.on k (⟨next, p⟩ :: below) with escape := true }) [c]
    between
  have third := step_escape (s := { s.on (k.after [c]) (⟨next, p⟩ :: below) with escape := true })
    between.next rfl rfl
  refine (runs_of_step first).trans (second.trans ((runs_of_step third).trans ?_))
  split
  · next found =>
    obtain ⟨d, head, _⟩ := (Option.any_eq_true ..).mp found
    obtain ⟨r, rfl⟩ := List.head?_eq_some_iff.mp head
    exact runs_skip (s := s.on (k.after [c]) (⟨next, p⟩ :: below)) [d] between.next
  · exact .refl _

theorem runs_call (between : k.Between front rest)
    (moves : f.point.moveAt rest = .call reader) :
    (s.on k (f :: below)).Runs (s.on k (⟨reader, k.position⟩ :: f :: below)) :=
  runs_of_step (step_act between rfl rfl rfl moves)

theorem fails_of_move (between : k.Between front rest)
    (moves : point.moveAt rest = .fail fault) :
    (s.on k (⟨point, p⟩ :: below)).Fails ⟨fault, p⟩ :=
  ⟨_, .refl _, (step_act between rfl rfl rfl moves).trans rfl⟩

/-- A reader that has taken some characters ends. -/
theorem runs_close (start : p.offset = byteLength front)
    (behind : k.Between (front ++ taken) rest) :
    (s.on k (⟨.ended kind, p⟩ :: below)).Runs
      ((s.on k (⟨.ended kind, p⟩ :: below)).close ⟨.ended kind, p⟩ below kind
        (String.ofList taken)) := by
  have text := behind.cut
  rw [← start] at text
  refine runs_of_step ((step_act behind rfl rfl rfl rfl).trans ?_)
  exact congrArg (Except.map _) text

/-- What comes of a reader, started at `p`, that is at `point` with `cs` in front of it. -/
inductive Reads (s : Scan) (p : Position) (below : List Frame) (kind : LexemeKind)
    (fault : LexFault) (point : Point) (k : Cursor) (cs : List Char) : Except Unclosed Nat → Prop
  | ok (inside : n ≤ cs.length)
      (runs : (s.on k (⟨point, p⟩ :: below)).Runs
        (s.on (k.after (cs.take n)) (⟨.ended kind, p⟩ :: below))) :
      Reads s p below kind fault point k cs (.ok n)
  | self (fails : (s.on k (⟨point, p⟩ :: below)).Fails ⟨fault, p⟩) :
      Reads s p below kind fault point k cs (.error .self)
  | inner
      (fails : (s.on k (⟨point, p⟩ :: below)).Fails ⟨other, k.position.after (cs.take ahead)⟩) :
      Reads s p below kind fault point k cs (.error (.inner other ahead))

variable {kind : LexemeKind} {fault : LexFault} {answer : Except Unclosed Nat}

theorem Reads.shift (inside : n ≤ rest.length)
    (runs : (s.on k (⟨point, p⟩ :: below)).Runs
      (s.on (k.after (rest.take n)) (⟨next, p⟩ :: below)))
    (behind : Reads s p below kind fault next (k.after (rest.take n)) (rest.drop n) answer) :
    Reads s p below kind fault point k rest (shiftLength n answer) := by
  cases behind with
  | @ok m enough further =>
    rw [List.length_drop] at enough
    refine .ok (by omega) ?_
    rw [List.take_add, Cursor.after_append]
    exact runs.trans further
  | self fails => exact .self (runs.fails fails)
  | inner fails =>
    refine .inner (runs.fails ?_)
    rw [List.take_add, Position.after_append]
    exact fails

theorem Reads.single
    (runs : (s.on k (⟨point, p⟩ :: below)).Runs (s.on (k.after [c]) (⟨next, p⟩ :: below)))
    (behind : Reads s p below kind fault next (k.after [c]) r answer) :
    Reads s p below kind fault point k (c :: r) (shiftLength 1 answer) :=
  .shift (Nat.le_add_left ..) runs behind

theorem simpleLength_map (n : Nat) (x : Option Nat) :
    simpleLength (x.map (· + n)) = shiftLength n (simpleLength x) := by
  cases x with
  | none => rfl
  | some m => exact congrArg Except.ok (Nat.add_comm m n)

/-- The reader of a literal on one line, up to a delimiter. -/
theorem reads_delimited {delimiter : Char} (nil : point.moveAt [] = .fail fault)
    (cons : ∀ c r, point.moveAt (c :: r) =
      if isLineBreak c then .fail fault
      else if c = delimiter then .pass 1 (.ended kind)
      else if c = '\\' then .escape point
      else .pass 1 point) (between : k.Between front rest) :
    Reads s p below kind fault point k rest (simpleLength (delimitedLength? delimiter rest)) := by
  fun_induction delimitedLength? delimiter rest generalizing k front with
  | case1 => exact .self (fails_of_move between nil)
  | case2 c r lineBreak =>
    exact .self (fails_of_move between ((cons c r).trans (by rw [if_pos lineBreak])))
  | case3 r solid =>
    have moves := cons delimiter r
    rw [if_neg solid, if_pos rfl] at moves
    exact .ok (Nat.le_add_left ..) (runs_pass_one between moves)
  | case4 solid other =>
    have moves := cons '\\' []
    rw [if_neg solid, if_neg other, if_pos rfl] at moves
    exact .self ((runs_escape between moves).fails (fails_of_move between.next nil))
  | case5 d r lineBreak solid other =>
    have moves := cons '\\' (d :: r)
    rw [if_neg solid, if_neg other, if_pos rfl] at moves
    have stop := cons d r
    rw [if_pos lineBreak] at stop
    have runs : (s.on k (⟨point, p⟩ :: below)).Runs _ := runs_escape between moves
    rw [if_neg (by simp [lineBreak])] at runs
    exact .self (runs.fails (fails_of_move between.next stop))
  | case6 d r inside solid other ih =>
    have moves := cons '\\' (d :: r)
    rw [if_neg solid, if_neg other, if_pos rfl] at moves
    have runs : (s.on k (⟨point, p⟩ :: below)).Runs _ := runs_escape between moves
    rw [if_pos (by simpa using inside)] at runs
    rw [simpleLength_map]
    exact .shift (Nat.le_add_left ..) runs (ih (between.drop 2))
  | case7 c r solid other plain ih =>
    have moves := cons c r
    rw [if_neg solid, if_neg other, if_neg plain] at moves
    rw [simpleLength_map]
    exact .single (runs_pass_one between moves) (ih between.next)

theorem reads_plain (between : k.Between front rest) :
    Reads s p below .literal .unterminatedString (.body false false 0) k rest
      (simpleLength (delimitedLength? '"' rest)) := by
  refine reads_delimited rfl (fun c r => ?_) between
  simp [Point.moveAt, Point.asks, Point.moveWith, Point.moveInBody]

theorem reads_character (between : k.Between front rest) :
    Reads s p below .literal .unterminatedCharacter .character k rest
      (simpleLength (delimitedLength? '\'' rest)) := by
  refine reads_delimited rfl (fun c r => ?_) between
  rw [Point.moveAt, Point.moveWith, Point.moveInCharacter]
  by_cases escape : c = '\\' <;> simp [escape]

theorem move_verbatim (c : Char) (r : List Char) :
    (Point.body true false 0).moveAt (c :: r) =
      if c = '"' && r.head? = some '"' then .pass 2 (.body true false 0)
      else if c = '"' then .pass 1 (.ended .literal)
      else .pass 1 (.body true false 0) := by
  simp [Point.moveAt, Point.asks, Point.moveWith, Point.moveInBody]

theorem reads_verbatim (between : k.Between front rest) :
    Reads s p below .literal .unterminatedString (.body true false 0) k rest
      (simpleLength (doubledLength? rest)) := by
  fun_induction doubledLength? rest generalizing k front with
  | case1 => exact .self (fails_of_move between rfl)
  | case2 => exact .ok (Nat.le_refl 1) (runs_pass_one between (move_verbatim '"' []))
  | case3 r ih =>
    have inside : 2 ≤ ('"' :: '"' :: r).length := Nat.le_add_left ..
    rw [simpleLength_map]
    exact .shift inside (runs_pass between inside (move_verbatim '"' ('"' :: r)))
      (ih (between.drop 2))
  | case4 d r other =>
    have moves := move_verbatim '"' (d :: r)
    rw [if_neg (by simpa using other), if_pos rfl] at moves
    exact .ok (Nat.le_add_left ..) (runs_pass_one between moves)
  | case5 c r other ih =>
    have moves := move_verbatim c r
    rw [if_neg (by simp [other]), if_neg other] at moves
    rw [simpleLength_map]
    exact .single (runs_pass_one between moves) (ih between.next)

theorem reads_comment (between : k.Between front rest) :
    Reads s p below .comment .unterminatedComment .comment k rest
      (simpleLength (commentLength? rest)) := by
  fun_induction commentLength? rest generalizing k front with
  | case1 => exact .self (fails_of_move between rfl)
  | case2 c r closes =>
    have moves : Point.comment.moveAt (c :: r) = _ := if_pos closes
    simp only [Bool.and_eq_true, decide_eq_true_eq] at closes
    obtain ⟨rfl, head⟩ := closes
    obtain ⟨r, rfl⟩ := List.head?_eq_some_iff.mp head
    exact .ok (Nat.le_add_left ..) (runs_pass between (Nat.le_add_left ..) moves)
  | case3 c r other ih =>
    have moves : Point.comment.moveAt (c :: r) = _ := if_neg other
    rw [simpleLength_map]
    exact .single (runs_pass_one between moves) (ih between.next)

/-- A run of quotes is read as a whole. -/
theorem rawLength?_run {quotes : Nat} (opened : 0 < quotes) (n : Nat) (cs : List Char) :
    rawLength? quotes n cs =
      if quotes ≤ n + runLength (· = '"') cs then some (runLength (· = '"') cs)
      else (rawLength? quotes 0 (cs.drop (runLength (· = '"') cs))).map
        (· + runLength (· = '"') cs) := by
  induction cs generalizing n with
  | nil => simp [rawLength?, runLength, Nat.ne_of_gt opened]
  | cons c cs ih =>
    rw [runLength_cons]
    by_cases quote : c = '"'
    · rw [rawLength?, if_pos quote, ih, if_pos (decide_eq_true quote), Nat.add_right_comm n 1,
        Nat.add_assoc n]
      split
      · rfl
      · rw [Option.map_map, List.drop_succ_cons]
        rfl
    · simp [rawLength?, quote, Nat.ne_of_gt opened, Function.comp_def]

/-- The reader of a raw string passes runs of quotes as a whole, and ends behind the first that is
long enough. -/
theorem reads_raw {k : Cursor} {front cs : List Char} {quotes : Nat} (opened : 0 < quotes)
    (between : k.Between front cs) :
    Reads s p below .literal .unterminatedString (.raw quotes) k cs
      (simpleLength (rawLength? quotes 0 cs)) := by
  match cs, between with
  | [], between =>
    rw [rawLength?, if_neg (Nat.not_le_of_lt opened)]
    exact .self (fails_of_move between rfl)
  | c :: r, between =>
    have moves : (Point.raw quotes).moveAt (c :: r) = Point.moveInRaw quotes (c :: r) := rfl
    rw [Point.moveInRaw] at moves
    by_cases quote : c = '"'
    · have inside := runLength_le (· = '"') (c :: r)
      have positive : 0 < runLength (· = '"') (c :: r) := by
        rw [runLength_cons, if_pos (decide_eq_true quote)]
        exact Nat.succ_pos _
      rw [if_pos quote] at moves
      dsimp only at moves
      rw [rawLength?_run opened, Nat.zero_add]
      split
      · next enough =>
        rw [if_pos enough] at moves
        exact .ok inside (runs_pass between inside moves)
      · next few =>
        -- The run is too short to close the string and is passed as a whole.
        rw [if_neg few] at moves
        rw [simpleLength_map]
        exact .shift inside (runs_pass between inside moves)
          (reads_raw opened (between.drop _))
    · rw [if_neg quote] at moves
      rw [rawLength?, if_neg quote, if_neg (Nat.not_le_of_lt opened), simpleLength_map]
      exact .single (runs_pass_one between moves) (reads_raw opened between.next)
termination_by cs.length
decreasing_by all_goals simp only [List.length_drop, List.length_cons]; omega

/-- What comes of a reader that starts at `point`, in front of `c` and `r`. -/
inductive Finds (s : Scan) (below : List Frame) (kind : LexemeKind) (point : Point) (k : Cursor)
    (c : Char) (r : List Char) : Except RelativeFault Nat → Prop
  | ok (inside : n ≤ r.length)
      (runs : (s.on k (⟨point, k.position⟩ :: below)).Runs
        (s.on (k.after (c :: r.take n)) (⟨.ended kind, k.position⟩ :: below))) :
      Finds s below kind point k c r (.ok n)
  | error
      (fails : (s.on k (⟨point, k.position⟩ :: below)).Fails
        ⟨e.fault, k.position.after ((c :: r).take e.ahead)⟩) :
      Finds s below kind point k c r (.error e)

/-- The reader of a string that starts with `c`. -/
def stringReader (c : Char) : Point :=
  if c = '"' then .string else .sigils false false

def bodyReader : StringStyle → Point
  | .plain => .body false false 0
  | .verbatim => .body true false 0
  | .raw quotes => .raw quotes
  | .interpolated verbatim => .body verbatim true 0

variable {sigils : List Char} {opening : Opening} {verbatim interpolated : Bool}

theorem Reads.total (inside : opening.ahead ≤ r.length)
    (runs : (s.on k (⟨point, k.position⟩ :: below)).Runs
      (s.on (k.after (c :: r.take opening.ahead)) (⟨next, k.position⟩ :: below)))
    (behind : Reads s k.position below .literal .unterminatedString next
      (k.after (c :: r.take opening.ahead)) (r.drop opening.ahead) answer) :
    Finds s below .literal point k c r (opening.total answer) := by
  cases behind with
  | @ok m enough further =>
    rw [List.length_drop] at enough
    refine .ok (by omega) ?_
    rw [List.take_add, ← List.cons_append, Cursor.after_append]
    exact runs.trans further
  | self fails => exact .error (runs.fails fails)
  | @inner fault m fails =>
    refine .error (runs.fails ?_)
    dsimp only
    rw [Nat.add_right_comm, List.take_succ_cons, List.take_add, ← List.cons_append,
      Position.after_append]
    exact fails

theorem runs_sigils (all : ∀ c ∈ sigils, isStringSigil c = true)
    (between : k.Between front (sigils ++ rest)) :
    (s.on k (⟨.sigils verbatim interpolated, p⟩ :: below)).Runs
      (s.on (k.after sigils)
        (⟨.sigils (verbatim || '@' ∈ sigils) (interpolated || '$' ∈ sigils), p⟩ :: below)) := by
  induction sigils generalizing k front verbatim interpolated with
  | nil => simpa using Runs.refl _
  | cons c sigils ih =>
    have sigil : isStringSigil c = true := all c List.mem_cons_self
    have moves : (Point.sigils verbatim interpolated).moveAt (c :: (sigils ++ rest)) = _ :=
      if_pos sigil
    have seen (b : Bool) (d : Char) : (b || decide (d ∈ c :: sigils)) =
        (b || decide (c = d) || decide (d ∈ sigils)) := by
      simp [Bool.or_assoc, Bool.decide_or, eq_comm]
    rw [seen, seen]
    exact (runs_pass_one between moves).trans
      (ih (fun d member => all d (List.mem_cons_of_mem c member)) between.next)

theorem runs_quotes (made : Opening.Made sigils (runLength (· = '"') rest) opening)
    (moves : point.moveAt rest = .pass 0 (
      if !decide ('@' ∈ sigils) && 3 ≤ runLength (· = '"') rest then .rawOpening
      else .bodyOpening ('@' ∈ sigils) ('$' ∈ sigils))) (between : k.Between front rest) :
    (s.on k (⟨point, p⟩ :: below)).Runs
      (s.on (k.after (rest.take (opening.ahead + 1 - sigils.length)))
        (⟨bodyReader opening.style, p⟩ :: below)) := by
  have inside := runLength_le (· = '"') rest
  have first : (s.on k (⟨point, p⟩ :: below)).Runs _ := runs_pass between (Nat.zero_le _) moves
  have positive := made.ahead.2
  have absent {d : Char} : sigils.count d = 0 → d ∉ sigils := List.count_eq_zero.mp
  have present {d : Char} : sigils.count d = 1 → d ∈ sigils := fun one =>
    List.count_pos_iff.mp (Nat.lt_of_sub_eq_succ one)
  -- Behind one quote the body starts, and only the flags of its reader differ.
  have body (verbatim interpolated : Bool) :
      (s.on k (⟨.bodyOpening verbatim interpolated, p⟩ :: below)).Runs
        (s.on (k.after (rest.take (sigils.length + 1 - sigils.length)))
          (⟨.body verbatim interpolated 0, p⟩ :: below)) := by
    rw [Nat.add_sub_cancel_left]
    exact runs_pass between (by omega) rfl
  cases made with
  | raw noAt many =>
    rw [if_pos (by simp [absent noAt, many])] at first
    have size : sigils.length + runLength (· = '"') rest - 1 + 1 - sigils.length =
        runLength (· = '"') rest := by omega
    rw [size]
    exact first.trans (runs_pass between inside rfl)
  | plain noAt noDollar _ few =>
    rw [if_neg (by simp [few]), decide_eq_false (absent noAt), decide_eq_false (absent noDollar)]
      at first
    exact first.trans (body false false)
  | interpolated noAt dollar _ few =>
    rw [if_neg (by simp [few]), decide_eq_false (absent noAt), decide_eq_true (present dollar)]
      at first
    exact first.trans (body false true)
  | verbatim oneAt noDollar =>
    rw [if_neg (by simp [present oneAt]), decide_eq_true (present oneAt),
      decide_eq_false (absent noDollar)] at first
    exact first.trans (body true false)
  | verbatimInterpolated oneAt dollar =>
    rw [if_neg (by simp [present oneAt]), decide_eq_true (present oneAt),
      decide_eq_true (present dollar)] at first
    exact first.trans (body true true)

/-- The reader of a string comes to its body behind the opening. -/
theorem runs_opening (found : Opening.of? (c :: r) = some opening)
    (between : k.Between front (c :: r)) :
    (s.on k (⟨stringReader c, p⟩ :: below)).Runs
      (s.on (k.after (c :: r.take opening.ahead)) (⟨bodyReader opening.style, p⟩ :: below)) := by
  have made := Opening.of?_eq_some.mp found
  have split := List.takeWhile_append_dropWhile (p := isStringSigil) (l := c :: r)
  have all : ∀ d ∈ (c :: r).takeWhile isStringSigil, isStringSigil d = true :=
    List.all_eq_true.mp List.all_takeWhile
  obtain ⟨behind, back⟩ := Opening.exists_dropWhile found
  have whole : c :: r.take opening.ahead = (c :: r).takeWhile isStringSigil ++
      ((c :: r).dropWhile isStringSigil).take
        (opening.ahead + 1 - ((c :: r).takeWhile isStringSigil).length) := by
    rw [← List.take_succ_cons]
    nth_rewrite 1 [← split]
    rw [List.take_append, List.take_of_length_le]
    exact Nat.le_succ_of_le made.ahead.1
  rw [whole, Cursor.after_append]
  rw [← split] at between
  by_cases quote : c = '"'
  · subst quote
    have none : isStringSigil '"' = false := rfl
    rw [stringReader, if_pos rfl]
    refine runs_quotes made ?_ between
    rw [Point.moveAt, Point.moveWith]
    simp [none]
  · rw [stringReader, if_neg quote]
    refine (runs_sigils all between).trans (runs_quotes made ?_ between.after)
    have none : ¬isStringSigil '"' = true := by decide
    rw [back, Point.moveAt, Point.moveWith, Point.moveInSigils, if_neg none]
    simp only [Bool.false_or]
    split <;> rfl

theorem finds_character (between : k.Between front (c :: r)) :
    Finds s below .literal .characterOpening k c r
      (match delimitedLength? '\'' r with
        | some length => .ok length
        | none => .error ⟨.unterminatedCharacter, 0⟩) := by
  have first : (s.on k (⟨.characterOpening, k.position⟩ :: below)).Runs _ :=
    runs_pass_one between rfl
  have behind : Reads s k.position below _ _ _ _ _ _ := reads_character between.next
  generalize delimitedLength? '\'' r = answer at behind
  cases answer with
  | none =>
    cases behind with
    | self fails => exact .error (first.fails fails)
  | some n =>
    cases behind with
    | ok inside runs => exact .ok inside (first.trans runs)

theorem isSome_of?_quote (r : List Char) : (Opening.of? ('"' :: r)).isSome = true := by
  have none : isStringSigil '"' = false := rfl
  by_cases many : 3 ≤ runLength (· = '"') r + 1 <;>
    simp [Opening.of?, none, runLength_cons, many]

/-- In an interpolated string, the step of the scan and the move of the string are the same. -/
theorem moveAt_body (verbatim : Bool) (holes : Nat) (c : Char) (r : List Char) :
    (Point.body verbatim true holes).moveAt (c :: r) =
      match Interpolation.move verbatim holes c r with
      | .broken => .fail .unterminatedString
      | .close => .pass 1 (.ended .literal)
      | .pass further holes' =>
        if c = '\\' && !verbatim then .escape (.body verbatim true holes')
        else .pass (further + 1) (.body verbatim true holes')
      | .string _ => .call (stringReader c)
      | .character => .call .characterOpening := by
  rw [Point.moveAt, Point.asks, Point.moveWith, List.head?_cons, Option.any_some]
  unfold Point.moveInBody Interpolation.move stringReader
  rcases Nat.eq_zero_or_pos holes with rfl | inside
  · simp only [isLineBreak]
    grind
  · have other := Nat.ne_of_gt inside
    simp only [isLineBreak]
    by_cases quote : c = '"'
    · subst quote
      obtain ⟨opening, found⟩ := Option.isSome_iff_exists.mp (isSome_of?_quote r)
      simp [inside, other, found]
    · cases sigil : isStringSigil c with
      | false =>
        rw [Opening.of?_eq_none sigil quote r]
        grind
      | true =>
        cases found : Opening.of? (c :: r) with
        | some opening =>
          have head := Opening.head_of_of? found
          grind
        | none => grind

theorem further_of_move (found : Interpolation.move verbatim holes c r = .pass further holes') :
    further ≤ r.length ∧ (c = '\\' → verbatim = false →
      further = if r.head?.any (!isLineBreak ·) then 1 else 0) := by
  unfold Interpolation.move at found
  cases r <;> grind

/-- A string goes on behind a literal in one of its holes. -/
theorem Finds.reads {after : Nat → Except Unclosed Nat}
    (between : k.Between front (c :: r))
    (moves : point.moveAt (c :: r) = .call reader)
    (finds : Finds s (⟨point, p⟩ :: below) .literal reader k c r found)
    (behind : ∀ n, Reads s p below kind fault point (k.after ((c :: r).take (n + 1)))
      ((c :: r).drop (n + 1)) (after n)) :
    Reads s p below kind fault point k (c :: r)
      (match found with
        | .error e => .error (.inner e.fault e.ahead)
        | .ok length => shiftLength (length + 1) (after length)) := by
  have call : (s.on k (⟨point, p⟩ :: below)).Runs _ := runs_call between moves
  cases finds with
  | error fails => exact .inner (call.fails fails)
  | @ok n inside runs =>
    have close : (s.on (k.after (c :: r.take n))
        (⟨.ended .literal, k.position⟩ :: ⟨point, p⟩ :: below)).Runs _ :=
      runs_close between.offset (between.drop (n + 1))
    exact .shift (Nat.succ_le_succ inside) (call.trans (runs.trans close)) (behind n)

theorem Opening.Made.three_le {quotes run : Nat} (made : Opening.Made sigils run opening)
    (raw : opening.style = .raw quotes) : 3 ≤ quotes := by
  cases made with
  | raw _ many => exact StringStyle.raw.inj raw ▸ many
  | plain | interpolated | verbatim | verbatimInterpolated => contradiction

mutual

/-- The readers find the end of a string where its length says. -/
theorem finds_string {s : Scan} {below : List Frame} {k : Cursor} {front r : List Char} {c : Char}
    {opening : Opening} (found : Opening.of? (c :: r) = some opening)
    (between : k.Between front (c :: r)) :
    Finds s below .literal (stringReader c) k c r (opening.length r) := by
  have ahead : opening.ahead ≤ r.length := by
    have lt := (Opening.of?_eq_some.mp found).ahead_lt
    have size := congrArg List.length
      (List.takeWhile_append_dropWhile (p := isStringSigil) (l := c :: r))
    have quotes := runLength_le (· = '"') ((c :: r).dropWhile isStringSigil)
    rw [List.length_append, List.length_cons] at size
    omega
  have behind := between.drop (opening.ahead + 1)
  unfold Opening.length
  refine Reads.total ahead (runs_opening found between) ?_
  cases style : opening.style with
  | plain => exact reads_plain behind
  | verbatim => exact reads_verbatim behind
  | raw quotes =>
    have many := Opening.Made.three_le (Opening.of?_eq_some.mp found) style
    exact reads_raw (Nat.zero_lt_of_lt many) behind
  | interpolated verbatim => exact reads_interpolated behind
termination_by 2 * r.length + 1
decreasing_by simp only [List.length_drop]; omega

/-- The reader of an interpolated string reads the literals in its holes to their ends. -/
theorem reads_interpolated {s : Scan} {p : Position} {below : List Frame} {k : Cursor}
    {front cs : List Char} {verbatim : Bool} {holes : Nat} (between : k.Between front cs) :
    Reads s p below .literal .unterminatedString (.body verbatim true holes) k cs
      (interpolatedLength verbatim holes cs) := by
  match cs, between with
  | [], between =>
    rw [interpolatedLength]
    exact .self (fails_of_move between rfl)
  | c :: r, between =>
    have moves := moveAt_body verbatim holes c r
    -- Behind each move the string goes on with fewer characters, a literal in a hole included.
    rw [interpolatedLength]
    cases found : Interpolation.move verbatim holes c r with
    | broken =>
      rw [found] at moves
      exact .self (fails_of_move between moves)
    | close =>
      rw [found] at moves
      exact .ok (Nat.le_add_left ..) (runs_pass_one between moves)
    | pass further holes' =>
      rw [found] at moves
      obtain ⟨inside, escaped⟩ := further_of_move found
      refine .shift (Nat.succ_le_succ inside) ?_ (reads_interpolated (between.drop (further + 1)))
      dsimp only at moves
      split at moves
      · next escape =>
        simp only [Bool.and_eq_true, decide_eq_true_eq, Bool.not_eq_true'] at escape
        rw [escaped escape.1 escape.2, List.take_succ_cons]
        exact runs_escape between moves
      · exact runs_pass between (Nat.succ_le_succ inside) moves
    | character =>
      rw [found] at moves
      have reads : Reads s p below _ _ _ k (c :: r) _ :=
        (finds_character between).reads between moves fun n =>
          reads_interpolated (between.drop (n + 1))
      dsimp only
      generalize delimitedLength? '\'' r = literal at reads ⊢
      cases literal with
      | none => exact reads
      | some n => exact reads
    | string opening =>
      rw [found] at moves
      have opens := Interpolation.of?_of_move found
      exact (finds_string opens between).reads between moves fun n =>
        reads_interpolated (between.drop (n + 1))
termination_by 2 * cs.length
decreasing_by all_goals simp only [List.length_drop, List.length_cons]; omega

end

end Scan
end Highlight
