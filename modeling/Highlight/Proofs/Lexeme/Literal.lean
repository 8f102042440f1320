import Highlight.Lexeme.Form

/-! What literals and comments are made of, and how far their readers look. A reader looks at the
characters that belong to the literal and at most at the one behind it: other characters may stand
there, as long as no quote does where none stood. -/
namespace Highlight

/-- One line up to a `delimiter` that no backslash escapes. -/
inductive Delimited (delimiter : Char) : List Char → Prop
  | close (solid : isLineBreak delimiter = false) : Delimited delimiter [delimiter]
  | escape (other : delimiter ≠ '\\') (solid : isLineBreak c = false)
      (behind : Delimited delimiter body) : Delimited delimiter ('\\' :: c :: body)
  | pass (solid : isLineBreak c = false) (other : c ≠ delimiter) (plain : c ≠ '\\')
      (behind : Delimited delimiter body) : Delimited delimiter (c :: body)

/-- Any characters up to a quote, with all quotes in front of it in pairs. -/
inductive Doubled : List Char → Prop
  | close : Doubled ['"']
  | pair (behind : Doubled body) : Doubled ('"' :: '"' :: body)
  | pass (other : c ≠ '"') (behind : Doubled body) : Doubled (c :: body)

/-- Any characters up to a run of at least `quotes` quotes, of which `run` have been read. -/
inductive RawTail (quotes : Nat) : Nat → List Char → Prop
  | done (enough : quotes ≤ run) : RawTail quotes run []
  | quote (behind : RawTail quotes (run + 1) body) : RawTail quotes run ('"' :: body)
  | pass (other : c ≠ '"') (few : run < quotes) (behind : RawTail quotes 0 body) :
      RawTail quotes run (c :: body)

inductive CommentTail : List Char → Prop
  | close : CommentTail ['*', '/']
  | pass (other : ¬(c = '*' ∧ body.head? = some '/')) (behind : CommentTail body) :
      CommentTail (c :: body)

section

variable {body rest other cs : List Char}

theorem Delimited.read (delimited : Delimited d body) (rest : List Char) :
    delimitedLength? d (body ++ rest) = some body.length := by
  induction delimited with
  | close solid =>
    rw [List.cons_append, delimitedLength?.eq_def]
    simp [solid]
  | @escape c body other solid behind ih =>
    have slash : isLineBreak '\\' = false := rfl
    simp [delimitedLength?, solid, slash, other.symm, ih]
  | @pass c body solid other plain behind ih =>
    rw [List.cons_append, delimitedLength?.eq_def]
    simp [solid, other, plain, ih]

theorem exists_delimited (read : delimitedLength? d cs = some n) :
    ∃ body rest, cs = body ++ rest ∧ body.length = n ∧ Delimited d body := by
  fun_induction delimitedLength? d cs generalizing n with
  | case1 | case2 | case4 | case5 => contradiction
  | case3 r solid =>
    cases read
    exact ⟨[d], r, rfl, rfl, .close (Bool.not_eq_true _ ▸ solid)⟩
  | case6 c r solid _ other ih =>
    obtain ⟨m, inner, rfl⟩ := Option.map_eq_some_iff.mp read
    obtain ⟨body, rest, rfl, rfl, behind⟩ := ih inner
    exact ⟨_, rest, rfl, rfl, .escape (Ne.symm other) (Bool.not_eq_true _ ▸ solid) behind⟩
  | case7 c r solid other plain ih =>
    obtain ⟨m, inner, rfl⟩ := Option.map_eq_some_iff.mp read
    obtain ⟨body, rest, rfl, rfl, behind⟩ := ih inner
    exact ⟨_, rest, rfl, rfl, .pass (Bool.not_eq_true _ ▸ solid) other plain behind⟩

theorem delimitedLength?_append :
    delimitedLength? d (body ++ rest) = some body.length ↔ Delimited d body := by
  refine ⟨fun read => ?_, fun delimited => delimited.read rest⟩
  obtain ⟨literal, behind, split, size, delimited⟩ := exists_delimited read
  exact (List.append_inj split size.symm).1 ▸ delimited

theorem Doubled.read (doubled : Doubled body) (edge : rest.head? ≠ some '"') :
    doubledLength? (body ++ rest) = some body.length := by
  induction doubled with
  | close =>
    cases rest with
    | nil => rfl
    | cons c rest =>
      have other : c ≠ '"' := fun same => edge (congrArg some same)
      simp [doubledLength?, other]
  | pair behind ih => simp [doubledLength?, ih]
  | @pass c body other behind ih =>
    rw [List.cons_append, doubledLength?.eq_def]
    simp [other, ih]

theorem exists_doubled (read : doubledLength? cs = some n) :
    ∃ body rest, cs = body ++ rest ∧ body.length = n ∧ rest.head? ≠ some '"' ∧ Doubled body := by
  fun_induction doubledLength? cs generalizing n with
  | case1 => contradiction
  | case2 =>
    cases read
    exact ⟨['"'], [], rfl, rfl, nofun, .close⟩
  | case3 r ih =>
    obtain ⟨m, inner, rfl⟩ := Option.map_eq_some_iff.mp read
    obtain ⟨body, rest, rfl, rfl, edge, behind⟩ := ih inner
    exact ⟨_, rest, rfl, rfl, edge, .pair behind⟩
  | case4 c r other =>
    cases read
    exact ⟨['"'], _, rfl, rfl, fun quote => other (Option.some.inj quote), .close⟩
  | case5 c r other ih =>
    obtain ⟨m, inner, rfl⟩ := Option.map_eq_some_iff.mp read
    obtain ⟨body, rest, rfl, rfl, edge, behind⟩ := ih inner
    exact ⟨_, rest, rfl, rfl, edge, .pass other behind⟩

theorem doubledLength?_append :
    doubledLength? (body ++ rest) = some body.length ↔ Doubled body ∧ rest.head? ≠ some '"' := by
  refine ⟨fun read => ?_, fun doubled => doubled.1.read doubled.2⟩
  obtain ⟨literal, behind, split, size, edge, doubled⟩ := exists_doubled read
  obtain ⟨rfl, rfl⟩ := List.append_inj split size.symm
  exact ⟨doubled, edge⟩

theorem RawTail.read (tail : RawTail quotes run body) (edge : rest.head? ≠ some '"') :
    rawLength? quotes run (body ++ rest) = some body.length := by
  induction tail with
  | done enough =>
    cases rest with
    | nil => simp [rawLength?, enough]
    | cons c rest =>
      have other : c ≠ '"' := fun same => edge (congrArg some same)
      simp [rawLength?, other, enough]
  | quote behind ih => simp [rawLength?, ih]
  | pass other few behind ih => simp [rawLength?, other, Nat.not_le.mpr few, ih]

theorem exists_rawTail (read : rawLength? quotes run cs = some n) :
    ∃ body rest, cs = body ++ rest ∧ body.length = n ∧ rest.head? ≠ some '"' ∧
      RawTail quotes run body := by
  fun_induction rawLength? quotes run cs generalizing n with
  | case1 run enough =>
    cases read
    exact ⟨[], [], rfl, rfl, nofun, .done enough⟩
  | case2 => contradiction
  | case3 run r ih =>
    obtain ⟨m, inner, rfl⟩ := Option.map_eq_some_iff.mp read
    obtain ⟨body, rest, rfl, rfl, edge, behind⟩ := ih inner
    exact ⟨_, rest, rfl, rfl, edge, .quote behind⟩
  | case4 run c r other enough =>
    cases read
    exact ⟨[], _, rfl, rfl, fun quote => other (Option.some.inj quote), .done enough⟩
  | case5 run c r other few ih =>
    obtain ⟨m, inner, rfl⟩ := Option.map_eq_some_iff.mp read
    obtain ⟨body, rest, rfl, rfl, edge, behind⟩ := ih inner
    exact ⟨_, rest, rfl, rfl, edge, .pass other (Nat.not_le.mp few) behind⟩

/-- A raw string ends in front of anything but a further quote. -/
theorem rawLength?_append :
    rawLength? quotes run (body ++ rest) = some body.length ↔
      RawTail quotes run body ∧ rest.head? ≠ some '"' := by
  refine ⟨fun read => ?_, fun tail => tail.1.read tail.2⟩
  obtain ⟨literal, behind, split, size, edge, tail⟩ := exists_rawTail read
  obtain ⟨rfl, rfl⟩ := List.append_inj split size.symm
  exact ⟨tail, edge⟩

theorem CommentTail.read (tail : CommentTail body) (rest : List Char) :
    commentLength? (body ++ rest) = some body.length := by
  induction tail with
  | close => rfl
  | @pass c body other behind ih =>
    have inside : (body ++ rest).head? = body.head? := by
      cases behind <;> rfl
    rw [List.cons_append, commentLength?, ih, inside]
    simp [other]

theorem exists_commentTail (read : commentLength? cs = some n) :
    ∃ body rest, cs = body ++ rest ∧ body.length = n ∧ CommentTail body := by
  fun_induction commentLength? cs generalizing n with
  | case1 => contradiction
  | case2 c r closes =>
    cases read
    simp only [Bool.and_eq_true, decide_eq_true_eq] at closes
    obtain ⟨rfl, head⟩ := closes
    obtain ⟨rest, rfl⟩ := List.head?_eq_some_iff.mp head
    exact ⟨['*', '/'], rest, rfl, rfl, .close⟩
  | case3 c r other ih =>
    obtain ⟨m, inner, rfl⟩ := Option.map_eq_some_iff.mp read
    obtain ⟨body, rest, rfl, rfl, behind⟩ := ih inner
    have inside : (body ++ rest).head? = body.head? := by
      cases behind <;> rfl
    rw [inside] at other
    exact ⟨_, rest, rfl, rfl, .pass (by simpa using other) behind⟩

theorem commentLength?_append :
    commentLength? (body ++ rest) = some body.length ↔ CommentTail body := by
  refine ⟨fun read => ?_, fun tail => tail.read rest⟩
  obtain ⟨comment, behind, split, size, tail⟩ := exists_commentTail read
  exact (List.append_inj split size.symm).1 ▸ tail

theorem shiftLength_eq_ok {answer : Except Unclosed Nat} :
    shiftLength k answer = .ok n ↔ ∃ m, answer = .ok m ∧ n = k + m := by
  rcases answer with (_ | _) | m
  · simp [shiftLength]
  · simp [shiftLength]
  · simp [shiftLength, eq_comm]

/-- The characters behind an opening of the style are read. -/
def StringStyle.Reads (style : StringStyle) (cs : List Char) (n : Nat) : Prop :=
  match style with
  | .plain => delimitedLength? '"' cs = some n
  | .verbatim => doubledLength? cs = some n
  | .raw quotes => rawLength? quotes 0 cs = some n
  | .interpolated v => interpolatedLength v 0 cs = .ok n

/-- A string has an end if what stands behind its opening is read in its style. -/
theorem Opening.length_eq_ok {opening : Opening} {r : List Char} :
    opening.length r = .ok n ↔
      ∃ m, opening.style.Reads (r.drop opening.ahead) m ∧ n = opening.ahead + m := by
  have total : ∀ answer, opening.total answer = .ok n ↔
      ∃ m, answer = .ok m ∧ n = opening.ahead + m := by
    rintro ((_ | _) | m)
    · simp [Opening.total]
    · simp [Opening.total]
    · simp [Opening.total, eq_comm]
  have simple : ∀ (answer : Option Nat) m, simpleLength answer = .ok m ↔ answer = some m := by
    rintro (_ | k) m <;> simp [simpleLength]
  unfold Opening.length
  rw [total]
  obtain ⟨style, ahead⟩ := opening
  cases style <;> simp only [StringStyle.Reads, simple]

theorem Opening.length_append {opening : Opening} {tail : List Char} :
    opening.length (tail ++ rest) = .ok tail.length ↔
      opening.ahead ≤ tail.length ∧
        opening.style.Reads (tail.drop opening.ahead ++ rest) (tail.drop opening.ahead).length := by
  rw [length_eq_ok]
  constructor
  · rintro ⟨m, reads, size⟩
    have inside : opening.ahead ≤ tail.length := by omega
    obtain rfl : m = (tail.drop opening.ahead).length := by
      rw [List.length_drop]
      omega
    rw [List.drop_append_of_le_length inside] at reads
    exact ⟨inside, reads⟩
  · rintro ⟨inside, reads⟩
    rw [← List.drop_append_of_le_length inside] at reads
    refine ⟨_, reads, ?_⟩
    rw [List.length_drop]
    omega

namespace Interpolation

/-- An interpolated string goes on behind `c` and `taken` more characters, with `holes'` braces
open. -/
inductive Passes (verbatim : Bool) (holes : Nat) (c : Char) (r : List Char) : Nat → Nat → Prop
  | pass (found : move verbatim holes c r = .pass taken holes') :
      Passes verbatim holes c r taken holes'
  | character (found : move verbatim holes c r = .character)
      (read : delimitedLength? '\'' r = some taken) : Passes verbatim holes c r taken holes
  | string (found : move verbatim holes c r = .string opening)
      (read : opening.length r = .ok taken) : Passes verbatim holes c r taken holes

/-- The rest of an interpolated string, with `holes` braces open at its start and `rest` behind its
closing quote. -/
inductive Closes (verbatim : Bool) (rest : List Char) : Nat → List Char → Prop
  | close (found : move verbatim holes c rest = .close) : Closes verbatim rest holes [c]
  | pass (passes : Passes verbatim holes c (front ++ (back ++ rest)) front.length holes')
      (behind : Closes verbatim rest holes' back) :
      Closes verbatim rest holes (c :: (front ++ back))

end Interpolation

open Interpolation

/-- An interpolated string closes here, or goes on behind what it passes. -/
theorem interpolatedLength_cons :
    interpolatedLength verbatim holes (c :: r) = .ok n ↔
      move verbatim holes c r = .close ∧ n = 1 ∨
        ∃ taken holes' m, Passes verbatim holes c r taken holes' ∧
          interpolatedLength verbatim holes' (r.drop taken) = .ok m ∧ n = taken + 1 + m := by
  rw [interpolatedLength]
  constructor
  · intro read
    split at read
    · contradiction
    · next closes => exact .inl ⟨closes, (Except.ok.inj read).symm⟩
    · next found =>
      obtain ⟨m, behind, rfl⟩ := shiftLength_eq_ok.mp read
      exact .inr ⟨_, _, m, .pass found, behind, rfl⟩
    · next found =>
      split at read
      · contradiction
      · next literal =>
        obtain ⟨m, behind, rfl⟩ := shiftLength_eq_ok.mp read
        exact .inr ⟨_, _, m, .character found literal, behind, rfl⟩
    · next found =>
      split at read
      · contradiction
      · next literal =>
        obtain ⟨m, behind, rfl⟩ := shiftLength_eq_ok.mp read
        exact .inr ⟨_, _, m, .string found literal, behind, rfl⟩
  · rintro (⟨closes, rfl⟩ | ⟨taken, holes', m, passes, behind, rfl⟩)
    · rw [closes]
    · cases passes with
      | pass found => rw [found]; exact shiftLength_eq_ok.mpr ⟨m, behind, rfl⟩
      | character found literal =>
        rw [found]
        simp only [literal]
        exact shiftLength_eq_ok.mpr ⟨m, behind, rfl⟩
      | string found literal =>
        rw [found]
        simp only [literal]
        exact shiftLength_eq_ok.mpr ⟨m, behind, rfl⟩

theorem Interpolation.Closes.nonempty (closes : Closes verbatim rest holes body) : body ≠ [] := by
  cases closes <;> exact List.cons_ne_nil _ _

theorem Interpolation.Closes.read (closes : Closes verbatim rest holes body) :
    interpolatedLength verbatim holes (body ++ rest) = .ok body.length := by
  induction closes with
  | close found => exact interpolatedLength_cons.mpr (.inl ⟨found, rfl⟩)
  | @pass holes c front back holes' passes behind ih =>
    rw [List.cons_append, List.append_assoc]
    refine interpolatedLength_cons.mpr (.inr ⟨_, _, back.length, passes, ?_, ?_⟩)
    · rwa [List.drop_left]
    · rw [List.length_cons, List.length_append]
      omega

theorem exists_closes : ∀ (cs : List Char) {holes n : Nat},
    interpolatedLength verbatim holes cs = .ok n →
    ∃ body rest, cs = body ++ rest ∧ body.length = n ∧ Closes verbatim rest holes body
  | [], _, _, read => by
    rw [interpolatedLength] at read
    contradiction
  | c :: r, _, _, read => by
    rcases interpolatedLength_cons.mp read with
      ⟨found, rfl⟩ | ⟨taken, holes', m, passes, behind, rfl⟩
    · exact ⟨[c], r, rfl, rfl, .close found⟩
    · obtain ⟨back, rest, split, rfl, closes⟩ := exists_closes (r.drop taken) behind
      have more : taken < r.length := by
        have size := congrArg List.length split
        have some := List.length_pos_iff.mpr closes.nonempty
        rw [List.length_drop, List.length_append] at size
        omega
      obtain ⟨front, rfl, rfl⟩ : ∃ front, r = front ++ (back ++ rest) ∧ front.length = taken :=
        ⟨r.take taken, by rw [← split, List.take_append_drop],
          List.length_take_of_le (Nat.le_of_lt more)⟩
      refine ⟨c :: (front ++ back), rest, by simp, ?_, .pass passes closes⟩
      rw [List.length_cons, List.length_append]
      omega
termination_by cs => cs.length
decreasing_by simp only [List.length_drop, List.length_cons]; omega

/-- An interpolated string is as long as the body that closes it. -/
theorem interpolatedLength_append :
    interpolatedLength verbatim holes (body ++ rest) = .ok body.length ↔
      Closes verbatim rest holes body := by
  refine ⟨fun read => ?_, fun closes => closes.read⟩
  obtain ⟨literal, behind, split, size, closes⟩ := exists_closes _ read
  obtain ⟨rfl, rfl⟩ := List.append_inj split size.symm
  exact closes

end

end Highlight
