import Highlight.Proofs.Lexeme.Cut

/-! A text is cut alike however its line breaks are written: as line feeds, as carriage returns, or
as both one behind the other. Two texts that differ only in this are read side by side. -/
namespace Highlight

/-- The ways in which a text writes its line breaks. Behind a carriage return that is a line break
of its own there is no line feed. -/
structure BreakStyle where
  breaks : List (List Char)
  known : ∀ b ∈ breaks, b ∈ [['\n'], ['\r'], ['\r', '\n']]
  apart : ['\r'] ∈ breaks → ['\n'] ∉ breaks

namespace BreakStyle

/-- Line feeds, with or without a carriage return in front. -/
def lineFeeds : BreakStyle :=
  ⟨[['\n'], ['\r', '\n']], by decide, by decide⟩

def carriageReturns : BreakStyle :=
  ⟨[['\r']], by decide, by decide⟩

end BreakStyle

/-- The second text is the first one with its line feeds written as line breaks of the style. The
first one has no carriage returns. -/
inductive Rewritten (style : BreakStyle) : List Char → List Char → Prop
  | nil : Rewritten style [] []
  | solid (solid : isLineBreak c = false) (behind : Rewritten style cs ds) :
      Rewritten style (c :: cs) (c :: ds)
  | lineBreak (written : b ∈ style.breaks) (behind : Rewritten style cs ds) :
      Rewritten style ('\n' :: cs) (b ++ ds)

variable {style : BreakStyle} {b cs ds r s : List Char} {c d : Char}

theorem BreakStyle.break_cases (written : b ∈ style.breaks) :
    b = ['\n'] ∨ b = ['\r'] ∨ b = ['\r', '\n'] := by
  simpa using style.known b written

namespace Rewritten

theorem append (first : Rewritten style cs ds) (second : Rewritten style cs' ds') :
    Rewritten style (cs ++ cs') (ds ++ ds') := by
  induction first with
  | nil => exact second
  | solid solid _ ih => exact .solid solid ih
  | lineBreak written _ ih =>
    rw [List.append_assoc]
    exact .lineBreak written ih

theorem exists_solid (rewritten : Rewritten style (c :: cs) ds) (solid : isLineBreak c = false) :
    ∃ behind, ds = c :: behind ∧ Rewritten style cs behind := by
  cases rewritten with
  | solid _ behind => exact ⟨_, rfl, behind⟩
  | lineBreak => contradiction

theorem exists_break (rewritten : Rewritten style (c :: cs) ds) (lineBreak : isLineBreak c = true) :
    c = '\n' ∧ ∃ b ∈ style.breaks, ∃ behind, ds = b ++ behind ∧ Rewritten style cs behind := by
  cases rewritten with
  | solid solid =>
    rw [solid] at lineBreak
    contradiction
  | lineBreak written behind => exact ⟨rfl, _, written, _, rfl, behind⟩

/-- What does not tell line breaks apart does not tell the texts apart at their heads. -/
theorem any_head? {p : Char → Bool} (rewritten : Rewritten style cs ds) (same : p '\n' = p '\r') :
    ds.head?.any p = cs.head?.any p := by
  cases rewritten with
  | nil | solid => rfl
  | lineBreak written =>
    rcases style.break_cases written with rfl | rfl | rfl
    · rfl
    · exact same.symm
    · exact same.symm

theorem head?_iff (rewritten : Rewritten style cs ds) (solid : isLineBreak c = false) :
    ds.head? = some c ↔ cs.head? = some c := by
  have same := rewritten.any_head? (p := (· = c)) (by
    have noFeed : '\n' ≠ c := by rintro rfl; contradiction
    have noReturn : '\r' ≠ c := by rintro rfl; contradiction
    simp [noFeed, noReturn])
  have some : ∀ l : List Char, l.head?.any (· = c) = true ↔ l.head? = some c := by
    intro l
    cases l <;> simp
  rw [← some, ← some, same]

section

variable {p : Char → Bool}

theorem takeWhile (rewritten : Rewritten style cs ds) (noFeed : p '\n' = false)
    (noReturn : p '\r' = false) : ds.takeWhile p = cs.takeWhile p := by
  induction rewritten with
  | nil => rfl
  | solid _ _ ih => simp only [List.takeWhile_cons, ih]
  | lineBreak written =>
    rcases style.break_cases written with rfl | rfl | rfl <;> simp [noFeed, noReturn]

theorem dropWhile (rewritten : Rewritten style cs ds) (noFeed : p '\n' = false)
    (noReturn : p '\r' = false) : Rewritten style (cs.dropWhile p) (ds.dropWhile p) := by
  induction rewritten with
  | nil => exact .nil
  | solid solid behind ih =>
    simp only [List.dropWhile_cons]
    split
    · exact ih
    · exact .solid solid behind
  | lineBreak written behind =>
    have whole := Rewritten.lineBreak written behind
    rcases style.break_cases written with rfl | rfl | rfl <;>
      simpa [noFeed, noReturn] using whole

end

theorem opening (rewritten : Rewritten style cs ds) : Opening.of? ds = Opening.of? cs := by
  have quotes := (rewritten.dropWhile (p := isStringSigil) rfl rfl).takeWhile
    (p := (· = '"')) rfl rfl
  unfold Opening.of? runLength
  rw [rewritten.takeWhile rfl rfl, quotes]

end Rewritten

/-- The first `n` characters of the one text are the first `m` of the other. -/
structure Aligned (style : BreakStyle) (cs ds : List Char) (n m : Nat) : Prop where
  front : Rewritten style (cs.take n) (ds.take m)
  back : Rewritten style (cs.drop n) (ds.drop m)

namespace Aligned

theorem zero (rewritten : Rewritten style cs ds) : Aligned style cs ds 0 0 :=
  ⟨.nil, rewritten⟩

theorem whole (aligned : Aligned style cs ds n m) : Rewritten style cs ds := by
  have both := aligned.front.append aligned.back
  rwa [List.take_append_drop, List.take_append_drop] at both

theorem add (aligned : Aligned style cs ds n m)
    (behind : Aligned style (cs.drop n) (ds.drop m) n' m') :
    Aligned style cs ds (n + n') (m + m') := by
  constructor
  · rw [List.take_add, List.take_add]
    exact aligned.front.append behind.front
  · rw [← List.drop_drop, ← List.drop_drop]
    exact behind.back

theorem solid (solid : isLineBreak c = false) (aligned : Aligned style cs ds n m) :
    Aligned style (c :: cs) (c :: ds) (n + 1) (m + 1) :=
  ⟨.solid solid aligned.front, aligned.back⟩

theorem lineBreak (written : b ∈ style.breaks) (aligned : Aligned style cs ds n m) :
    Aligned style ('\n' :: cs) (b ++ ds) (n + 1) (b.length + m) := by
  constructor
  · rw [List.take_length_add_append]
    exact .lineBreak written aligned.front
  · rw [List.drop_length_add_append]
    exact aligned.back

/-- Characters that break no line are the same in both texts. -/
theorem of_solid (rewritten : Rewritten style cs ds)
    (solid : ∀ c ∈ cs.take n, isLineBreak c = false) : Aligned style cs ds n n := by
  induction n generalizing cs ds with
  | zero => exact zero rewritten
  | succ n ih =>
    cases rewritten with
    | nil => exact ⟨.nil, .nil⟩
    | solid here behind =>
      exact (ih behind fun c member => solid c (List.mem_cons_of_mem _ member)).solid here
    | lineBreak => exact absurd (solid '\n' List.mem_cons_self) (by decide)

theorem runLength {p : Char → Bool} (rewritten : Rewritten style cs ds) (noFeed : p '\n' = false)
    (noReturn : p '\r' = false) : Aligned style cs ds (runLength p cs) (runLength p ds) := by
  have same : Highlight.runLength p ds = Highlight.runLength p cs :=
    congrArg List.length (rewritten.takeWhile noFeed noReturn)
  rw [same]
  refine of_solid rewritten fun c member => ?_
  have inside : p c = true := by
    have run : cs.take (Highlight.runLength p cs) = cs.takeWhile p := by
      rw [Highlight.runLength, ← List.prefix_iff_eq_take.mp (List.takeWhile_prefix p)]
    rw [run] at member
    exact List.all_eq_true.mp List.all_takeWhile c member
  refine Bool.eq_false_iff.mpr fun lineBreak => ?_
  simp only [isLineBreak, Bool.or_eq_true, decide_eq_true_eq] at lineBreak
  rcases lineBreak with rfl | rfl
  · rw [noFeed] at inside
    contradiction
  · rw [noReturn] at inside
    contradiction

/-- What answers a reader may give for two such texts. -/
abbrev Answers (style : BreakStyle) (cs ds : List Char) : Option Nat → Option Nat → Prop :=
  Option.Rel (Aligned style cs ds)

theorem answers_solid {x y : Option Nat} (solid : isLineBreak c = false)
    (answers : Answers style cs ds x y) :
    Answers style (c :: cs) (c :: ds) (x.map (· + 1)) (y.map (· + 1)) := by
  cases answers with
  | none => exact .none
  | some aligned => exact .some (aligned.solid solid)

theorem answers_pair {x y : Option Nat} (first : isLineBreak c = false)
    (second : isLineBreak d = false) (answers : Answers style cs ds x y) :
    Answers style (c :: d :: cs) (c :: d :: ds) (x.map (· + 2)) (y.map (· + 2)) := by
  cases answers with
  | none => exact .none
  | some aligned => exact .some ((aligned.solid second).solid first)

theorem answers_lineBreak {x y : Option Nat} (written : b ∈ style.breaks)
    (answers : Answers style cs ds x y) :
    Answers style ('\n' :: cs) (b ++ ds) (x.map (· + 1)) (y.map (b.length + ·)) := by
  cases answers with
  | none => exact .none
  | some aligned => exact .some (aligned.lineBreak written)

end Aligned

open Aligned

theorem ne_of_isLineBreak (lineBreak : isLineBreak c = true) (solid : isLineBreak d = false) :
    c ≠ d := by
  rintro rfl
  rw [lineBreak] at solid
  contradiction

section

variable (written : b ∈ style.breaks)
include written

theorem exists_cons_of_break : ∃ d tail, b = d :: tail ∧ isLineBreak d = true := by
  rcases style.break_cases written with rfl | rfl | rfl <;> exact ⟨_, _, rfl, rfl⟩

/-- A reader that passes each character of a line break passes the line break. -/
theorem pass_break {read : List Char → Option Nat}
    (pass : ∀ {c r}, isLineBreak c = true → read (c :: r) = (read r).map (· + 1)) :
    read (b ++ ds) = (read ds).map (b.length + ·) := by
  have add (k : Nat) : (fun n => k + n) = (· + k) := funext fun n => Nat.add_comm k n
  rw [add]
  rcases style.break_cases written with rfl | rfl | rfl
  · exact pass rfl
  · exact pass rfl
  · exact (pass rfl).trans ((congrArg _ (pass rfl)).trans (Option.map_map ..))

theorem delimitedLength?_break : delimitedLength? d (b ++ ds) = none := by
  obtain ⟨e, tail, rfl, lineBreak⟩ := exists_cons_of_break written
  rw [List.cons_append, delimitedLength?.eq_def]
  simp [lineBreak]

theorem doubledLength?_break :
    doubledLength? (b ++ ds) = (doubledLength? ds).map (b.length + ·) := by
  refine pass_break written fun {c r} lineBreak => ?_
  have other : c ≠ '"' := ne_of_isLineBreak lineBreak rfl
  rw [doubledLength?.eq_def]
  simp [other]

theorem rawLength?_break (few : ¬quotes ≤ run) :
    rawLength? quotes run (b ++ ds) = (rawLength? quotes 0 ds).map (b.length + ·) := by
  have some : ¬quotes ≤ 0 := by omega
  have pass {run c r} (few : ¬quotes ≤ run) (lineBreak : isLineBreak c = true) :
      rawLength? quotes run (c :: r) = (rawLength? quotes 0 r).map (· + 1) := by
    rw [rawLength?, if_neg (ne_of_isLineBreak lineBreak rfl), if_neg few]
  rw [← pass_break written (pass some)]
  obtain ⟨c, tail, rfl, lineBreak⟩ := exists_cons_of_break written
  exact (pass few lineBreak).trans (pass some lineBreak).symm

theorem commentLength?_break :
    commentLength? (b ++ ds) = (commentLength? ds).map (b.length + ·) := by
  refine pass_break written fun {c r} lineBreak => ?_
  have other : c ≠ '*' := ne_of_isLineBreak lineBreak rfl
  simp [commentLength?, other]

end

/-! The readers of literals and comments. -/

/-- Other line breaks change neither whether a literal on one line ends nor where. -/
theorem delimitedLength?_rewritten (rewritten : Rewritten style cs ds) :
    Answers style cs ds (delimitedLength? d cs) (delimitedLength? d ds) := by
  fun_induction delimitedLength? d cs generalizing ds with
  | case1 =>
    cases rewritten
    exact .none
  | case2 c r lineBreak =>
    obtain ⟨-, b, written, behind, rfl, _⟩ := rewritten.exists_break lineBreak
    rw [delimitedLength?_break written]
    exact .none
  | case3 r solid =>
    rw [Bool.not_eq_true] at solid
    obtain ⟨behind, rfl, inner⟩ := rewritten.exists_solid solid
    have same : delimitedLength? d (d :: behind) = some 1 := by
      rw [delimitedLength?.eq_def]
      simp [solid]
    rw [same]
    exact .some ((zero inner).solid solid)
  | case4 solid other =>
    obtain ⟨behind, rfl, inner⟩ := rewritten.exists_solid rfl
    cases inner
    rw [delimitedLength?.eq_def]
    simp [solid, other]
  | case5 e r lineBreak solid other =>
    obtain ⟨behind, rfl, inner⟩ := rewritten.exists_solid rfl
    obtain ⟨-, b, written, behind, rfl, _⟩ := inner.exists_break lineBreak
    obtain ⟨e, tail, rfl, lineBreak⟩ := exists_cons_of_break written
    rw [delimitedLength?.eq_def]
    simp [solid, other, lineBreak]
  | case6 e r inside solid other ih =>
    rw [Bool.not_eq_true] at inside
    obtain ⟨behind, rfl, inner⟩ := rewritten.exists_solid rfl
    obtain ⟨behind, rfl, innermost⟩ := inner.exists_solid inside
    have same : delimitedLength? d ('\\' :: e :: behind) =
        (delimitedLength? d behind).map (· + 2) := by
      rw [delimitedLength?.eq_def]
      simp [solid, other, inside]
    rw [same]
    exact answers_pair rfl inside (ih innermost)
  | case7 c r solid other plain ih =>
    rw [Bool.not_eq_true] at solid
    obtain ⟨behind, rfl, inner⟩ := rewritten.exists_solid solid
    have same : delimitedLength? d (c :: behind) = (delimitedLength? d behind).map (· + 1) := by
      rw [delimitedLength?.eq_def]
      simp [solid, other, plain]
    rw [same]
    exact answers_solid solid (ih inner)

theorem doubledLength?_rewritten (rewritten : Rewritten style cs ds) :
    Answers style cs ds (doubledLength? cs) (doubledLength? ds) := by
  fun_induction doubledLength? cs generalizing ds with
  | case1 =>
    cases rewritten
    exact .none
  | case2 =>
    obtain ⟨behind, rfl, inner⟩ := rewritten.exists_solid rfl
    cases inner
    exact .some ((zero .nil).solid rfl)
  | case3 r ih =>
    obtain ⟨behind, rfl, inner⟩ := rewritten.exists_solid rfl
    obtain ⟨behind, rfl, innermost⟩ := inner.exists_solid rfl
    exact answers_pair rfl rfl (ih innermost)
  | case4 c r other =>
    obtain ⟨behind, rfl, inner⟩ := rewritten.exists_solid rfl
    have single : behind.head? ≠ some '"' :=
      mt (inner.head?_iff rfl).mp fun quote => other (Option.some.inj quote)
    have close : doubledLength? ('"' :: behind) = some 1 := Doubled.close.read single
    rw [close]
    exact .some ((zero inner).solid rfl)
  | case5 c r other ih =>
    cases rewritten with
    | @solid _ _ behind solid inner =>
      have same : doubledLength? (c :: behind) = (doubledLength? behind).map (· + 1) := by
        rw [doubledLength?.eq_def]
        simp [other]
      rw [same]
      exact answers_solid solid (ih inner)
    | lineBreak written inner =>
      rw [doubledLength?_break written]
      exact answers_lineBreak written (ih inner)

/-- A raw string ends behind the same quotes, however lines are broken in it. -/
theorem rawLength?_rewritten (rewritten : Rewritten style cs ds) :
    Answers style cs ds (rawLength? quotes run cs) (rawLength? quotes run ds) := by
  fun_induction rawLength? quotes run cs generalizing ds with
  | case1 run enough =>
    cases rewritten
    rw [rawLength?, if_pos enough]
    exact .some (zero .nil)
  | case2 run few =>
    cases rewritten
    rw [rawLength?, if_neg few]
    exact .none
  | case3 run r ih =>
    obtain ⟨behind, rfl, inner⟩ := rewritten.exists_solid rfl
    rw [rawLength?, if_pos rfl]
    exact answers_solid rfl (ih inner)
  | case4 run c r other enough =>
    have stop : ds.head? ≠ some '"' :=
      mt (rewritten.head?_iff rfl).mp fun quote => other (Option.some.inj quote)
    have close : rawLength? quotes run ds = some 0 := (RawTail.done enough).read stop
    rw [close]
    exact .some (zero rewritten)
  | case5 run c r other few ih =>
    cases rewritten with
    | solid solid inner =>
      rw [rawLength?, if_neg other, if_neg few]
      exact answers_solid solid (ih inner)
    | lineBreak written inner =>
      rw [rawLength?_break written few]
      exact answers_lineBreak written (ih inner)

theorem commentLength?_rewritten (rewritten : Rewritten style cs ds) :
    Answers style cs ds (commentLength? cs) (commentLength? ds) := by
  fun_induction commentLength? cs generalizing ds with
  | case1 =>
    cases rewritten
    exact .none
  | case2 c r closes =>
    simp only [Bool.and_eq_true, decide_eq_true_eq] at closes
    obtain ⟨rfl, slash⟩ := closes
    obtain ⟨r, rfl⟩ := List.head?_eq_some_iff.mp slash
    obtain ⟨behind, rfl, inner⟩ := rewritten.exists_solid rfl
    obtain ⟨behind, rfl, innermost⟩ := inner.exists_solid rfl
    exact .some (((zero innermost).solid rfl).solid rfl)
  | case3 c r other ih =>
    cases rewritten with
    | @solid _ _ behind solid inner =>
      have same : ¬(c = '*' && behind.head? = some '/') := by
        simpa [inner.head?_iff (c := '/') rfl] using other
      rw [commentLength?, if_neg same]
      exact answers_solid solid (ih inner)
    | lineBreak written inner =>
      rw [commentLength?_break written]
      exact answers_lineBreak written (ih inner)

theorem Aligned.numberLength (rewritten : Rewritten style cs ds) :
    Aligned style cs ds (numberLength cs) (numberLength ds) := by
  induction rewritten with
  | nil => exact zero .nil
  | @solid c cs ds solid behind ih =>
    have digit : ds.head?.any Char.isDigit = cs.head?.any Char.isDigit := behind.any_head? rfl
    rw [Highlight.numberLength, Highlight.numberLength, digit]
    split
    · exact ih.solid solid
    · exact zero (.solid solid behind)
  | @lineBreak b cs ds written behind =>
    have whole := Rewritten.lineBreak written behind
    have stop : Highlight.numberLength (b ++ ds) = 0 := by
      rcases style.break_cases written with rfl | rfl | rfl <;> rfl
    rw [stop]
    exact zero whole

end Highlight
