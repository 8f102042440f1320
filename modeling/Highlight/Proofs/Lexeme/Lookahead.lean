import Mathlib.Data.List.Basic
import Mathlib.Data.List.TakeDrop
import Highlight.Proofs.Lexeme.Literal

/-! How far the readers of literals look: at the characters that belong to the literal, and at most
at the one behind it. Other characters may stand there, as long as no quote does where none
stood. -/
namespace Highlight

variable {body rest other : List Char}

section

variable {p : α → Bool} {a : α}

theorem takeWhile_shield (stop : p a = false) (front r : List α) :
    (front ++ a :: r).takeWhile p = front.takeWhile p := by
  induction front with
  | nil => simp [stop]
  | cons b front ih => simp only [List.cons_append, List.takeWhile_cons, ih]

theorem dropWhile_shield (stop : p a = false) (front r : List α) :
    (front ++ a :: r).dropWhile p = front.dropWhile p ++ a :: r := by
  induction front with
  | nil => simp [stop]
  | cons b front ih =>
    simp only [List.cons_append, List.dropWhile_cons, ih]
    split <;> rfl

end

/-- An opening does not reach beyond a character that is neither a sigil nor a quote. -/
theorem Opening.of?_shield (sigil : isStringSigil d = false) (quote : d ≠ '"')
    (front r s : List Char) : of? (front ++ d :: r) = of? (front ++ d :: s) := by
  have run : ∀ r, runLength (· = '"') ((front ++ d :: r).dropWhile isStringSigil) =
      runLength (· = '"') (front.dropWhile isStringSigil) := by
    intro r
    rw [dropWhile_shield sigil, runLength, takeWhile_shield (by simp [quote])]
    rfl
  unfold of?
  simp only [run, takeWhile_shield sigil]

namespace Interpolation

theorem move_eq_close :
    move verbatim holes c r = .close ↔
      holes = 0 ∧ c = '"' ∧ ¬(verbatim = true ∧ r.head? = some '"') := by
  unfold move
  constructor
  · intro closes
    grind
  · rintro ⟨rfl, rfl, single⟩
    have solid : isLineBreak '"' = false := rfl
    simpa [solid] using single

/-- Where a move looks further ahead than one character, a closing brace is still to come. -/
theorem move_exchange (shield : 0 < holes → '}' ∈ c :: body) (nonempty : body ≠ []) :
    move verbatim holes c (body ++ rest) = move verbatim holes c (body ++ other) := by
  have head : ∀ r, (body ++ r).head? = body.head? := fun r =>
    List.head?_append_of_ne_nil _ nonempty
  unfold move
  simp only [head]
  split
  · rfl
  · next inside =>
    by_cases closes : c = '}'
    · simp [closes]
    · rcases List.mem_cons.mp (shield (Nat.pos_of_ne_zero inside)) with same | member
      · exact absurd same.symm closes
      · obtain ⟨front, back, rfl⟩ := List.append_of_mem member
        have opening : Opening.of? (c :: (front ++ '}' :: back ++ rest)) =
            Opening.of? (c :: (front ++ '}' :: back ++ other)) := by
          simpa using Opening.of?_shield (d := '}') rfl (by decide) (c :: front) (back ++ rest)
            (back ++ other)
        rw [opening]

theorem Passes.holes_pos (passes : Passes verbatim holes c r taken holes') (inside : 0 < holes) :
    c = '}' ∨ 0 < holes' := by
  cases passes with
  | character | string => exact .inr inside
  | pass found =>
    unfold move at found
    grind

/-- An open hole is closed before the string is. -/
theorem Closes.brace_mem (closes : Closes verbatim rest holes body) (inside : 0 < holes) :
    '}' ∈ body := by
  induction closes with
  | close found =>
    have outside := (move_eq_close.mp found).1
    omega
  | pass passes _ ih =>
    rcases passes.holes_pos inside with rfl | inside
    · exact List.mem_cons_self
    · exact List.mem_cons_of_mem _ (List.mem_append_right _ (ih inside))

end Interpolation

open Interpolation

theorem StringStyle.Reads.le {style : StringStyle} (reads : style.Reads cs n) : n ≤ cs.length := by
  cases style with
  | plain =>
    obtain ⟨body, rest, rfl, rfl, _⟩ := exists_delimited reads
    simp
  | verbatim =>
    obtain ⟨body, rest, rfl, rfl, _⟩ := exists_doubled reads
    simp
  | raw quotes =>
    obtain ⟨body, rest, rfl, rfl, _⟩ := exists_rawTail reads
    simp
  | interpolated verbatim =>
    obtain ⟨body, rest, rfl, rfl, _⟩ := exists_closes cs reads
    simp

mutual

/-- What follows a string does not change where it ends, quotes aside. -/
theorem Opening.length_exchange {opening : Opening} {tail rest other : List Char}
    (read : opening.length (tail ++ rest) = .ok tail.length)
    (edge : other.head? = some '"' → rest.head? = some '"') :
    opening.length (tail ++ other) = .ok tail.length := by
  obtain ⟨inside, reads⟩ := Opening.length_append.mp read
  refine Opening.length_append.mpr ⟨inside, ?_⟩
  obtain ⟨style, ahead⟩ := opening
  cases style with
  | plain => exact delimitedLength?_append.mpr (delimitedLength?_append.mp reads)
  | verbatim =>
    exact doubledLength?_append.mpr ((doubledLength?_append.mp reads).imp_right (mt edge))
  | raw quotes => exact rawLength?_append.mpr ((rawLength?_append.mp reads).imp_right (mt edge))
  | interpolated verbatim =>
    exact interpolatedLength_append.mpr ((interpolatedLength_append.mp reads).exchange edge)
termination_by 2 * tail.length + 1
decreasing_by simp only [List.length_drop]; omega

theorem Interpolation.Closes.exchange {verbatim : Bool} {holes : Nat} {body rest other : List Char}
    (closes : Closes verbatim rest holes body)
    (edge : other.head? = some '"' → rest.head? = some '"') :
    Closes verbatim other holes body := by
  have shield := closes.brace_mem
  cases closes with
  | close found =>
    obtain ⟨outside, quote, single⟩ := move_eq_close.mp found
    refine .close (move_eq_close.mpr ⟨outside, quote, ?_⟩)
    exact fun ⟨double, head⟩ => single ⟨double, edge head⟩
  | @pass _ c front back holes' passes behind =>
    have more := behind.nonempty
    have same : move verbatim holes c (front ++ back ++ rest) =
        move verbatim holes c (front ++ back ++ other) :=
      move_exchange shield (List.append_ne_nil_of_right_ne_nil _ more)
    rw [List.append_assoc, List.append_assoc] at same
    refine .pass ?_ (behind.exchange edge)
    cases passes with
    | pass found => exact .pass (same ▸ found)
    | character found read =>
      exact .character (same ▸ found)
        (delimitedLength?_append.mpr (delimitedLength?_append.mp read))
    | string found read =>
      refine .string (same ▸ found) (Opening.length_exchange read ?_)
      rw [List.head?_append_of_ne_nil _ more, List.head?_append_of_ne_nil _ more]
      exact id
termination_by 2 * body.length

end

theorem runLength_eq_zero {p : Char → Bool} : runLength p cs = 0 ↔ cs.head?.any p = false := by
  cases cs with
  | nil => simp [runLength]
  | cons c cs => cases inside : p c <;> simp [runLength, inside]

theorem runLength_cons {p : Char → Bool} :
    runLength p (c :: cs) = if p c then runLength p cs + 1 else 0 := by
  rw [runLength, List.takeWhile_cons]
  split <;> rfl

theorem runLength_exchange {p : Char → Bool} (read : runLength p (body ++ rest) ≤ body.length)
    (edge : other.head?.any p = true → rest.head?.any p = true) :
    runLength p (body ++ other) = runLength p (body ++ rest) := by
  induction body with
  | nil =>
    have stop := runLength_eq_zero.mp (Nat.le_zero.mp read)
    have stop' : other.head?.any p = false := by
      rw [Bool.eq_false_iff] at stop ⊢
      exact mt edge stop
    exact (runLength_eq_zero.mpr stop').trans (runLength_eq_zero.mpr stop).symm
  | cons c body ih =>
    simp only [List.cons_append, runLength_cons] at read ⊢
    split
    · next inside =>
      rw [if_pos inside, List.length_cons] at read
      rw [ih (by omega)]
    · rfl

namespace Opening

/-- The opening is made of sigils with quotes behind them. -/
inductive Made (sigils : List Char) (quotes : Nat) : Opening → Prop
  | raw (noAt : sigils.count '@' = 0) (many : 3 ≤ quotes) :
      Made sigils quotes ⟨.raw quotes, sigils.length + quotes - 1⟩
  | plain (noAt : sigils.count '@' = 0) (noDollar : sigils.count '$' = 0) (some : 0 < quotes)
      (few : quotes < 3) : Made sigils quotes ⟨.plain, sigils.length⟩
  | interpolated (noAt : sigils.count '@' = 0) (dollar : sigils.count '$' = 1) (some : 0 < quotes)
      (few : quotes < 3) : Made sigils quotes ⟨.interpolated false, sigils.length⟩
  | verbatim (oneAt : sigils.count '@' = 1) (noDollar : sigils.count '$' = 0)
      (some : 0 < quotes) : Made sigils quotes ⟨.verbatim, sigils.length⟩
  | verbatimInterpolated (oneAt : sigils.count '@' = 1) (dollar : sigils.count '$' = 1)
      (some : 0 < quotes) : Made sigils quotes ⟨.interpolated true, sigils.length⟩

/-- How many sigils and quotes there are makes the style of a string. -/
theorem of?_eq_some {opening : Opening} :
    of? cs = some opening ↔
      Made (cs.takeWhile isStringSigil) (runLength (· = '"') (cs.dropWhile isStringSigil))
        opening := by
  unfold of?
  generalize cs.takeWhile isStringSigil = sigils
  generalize runLength (· = '"') (cs.dropWhile isStringSigil) = quotes
  dsimp only
  constructor
  · intro found
    split at found
    · contradiction
    · next some =>
      have some := Nat.pos_of_ne_zero some
      split at found
      · next dollars noAt =>
        split at found
        · next many => cases found; exact .raw noAt many
        · next few =>
          have few := Nat.not_le.mp few
          split at found
          · next noDollar => cases found; exact .plain noAt noDollar some few
          · next dollar => cases found; exact .interpolated noAt dollar some few
          · contradiction
      · next oneAt noDollar => cases found; exact .verbatim oneAt noDollar some
      · next oneAt dollar => cases found; exact .verbatimInterpolated oneAt dollar some
      · contradiction
  · intro made
    cases made with
    | raw noAt many =>
      rw [if_neg (by omega)]
      simp [noAt, many]
    | plain noAt dollars some few | interpolated noAt dollars some few =>
      rw [if_neg (by omega)]
      simp [noAt, dollars, Nat.not_le.mpr few]
    | verbatim oneAt dollars some | verbatimInterpolated oneAt dollars some =>
      rw [if_neg (by omega)]
      simp [oneAt, dollars]

theorem of?_written {sigils : List Char} {opening : Opening}
    (all : ∀ c ∈ sigils, isStringSigil c = true) :
    of? (sigils ++ '"' :: cs) = some opening ↔
      Made sigils (runLength (· = '"') cs + 1) opening := by
  rw [of?_eq_some, List.takeWhile_append_of_pos all, List.dropWhile_append_of_pos all,
    List.takeWhile_cons_of_neg (by decide), List.dropWhile_cons_of_neg (by decide),
    List.append_nil, runLength_cons]
  rfl

theorem Made.ahead {opening : Opening} (made : Made sigils quotes opening) :
    sigils.length ≤ opening.ahead ∧ 0 < quotes := by
  cases made with
  | raw noAt many => exact ⟨by dsimp only; omega, by omega⟩
  | plain _ _ some | interpolated _ _ some | verbatim _ _ some | verbatimInterpolated _ _ some =>
    exact ⟨Nat.le_refl _, some⟩

theorem Made.ahead_lt {opening : Opening} (made : Made sigils quotes opening) :
    opening.ahead < sigils.length + quotes := by
  cases made with
  | raw noAt many => dsimp only; omega
  | plain _ _ some | interpolated _ _ some | verbatim _ _ some | verbatimInterpolated _ _ some =>
    exact Nat.lt_add_of_pos_right some

/-- Behind the sigils of an opening stands a quote. -/
theorem exists_dropWhile {opening : Opening} (found : of? cs = some opening) :
    ∃ behind, cs.dropWhile isStringSigil = '"' :: behind := by
  have quotes := (of?_eq_some.mp found).ahead.2
  have inside := mt runLength_eq_zero.mpr (Nat.ne_of_gt quotes)
  obtain ⟨d, head, quote⟩ := (Option.any_eq_true ..).mp ((Bool.not_eq_false _).mp inside)
  obtain rfl := of_decide_eq_true quote
  exact List.head?_eq_some_iff.mp head

/-- Where an opening ends before the body does, the body starts with all sigils and a quote. -/
theorem exists_written {opening : Opening} (found : of? (body ++ rest) = some opening)
    (enough : opening.ahead < body.length) :
    ∃ sigils back, body = sigils ++ '"' :: back ∧ ∀ c ∈ sigils, isStringSigil c = true := by
  have ahead := (of?_eq_some.mp found).ahead.1
  obtain ⟨behind, split⟩ := exists_dropWhile found
  have whole := List.takeWhile_append_dropWhile (p := isStringSigil) (l := body ++ rest)
  rw [split] at whole
  generalize sigils_eq : (body ++ rest).takeWhile isStringSigil = sigils at *
  rcases List.append_eq_append_iff.mp whole with ⟨back, rfl, same⟩ | ⟨back, rfl, same⟩
  · cases back with
    | nil => simp at enough; omega
    | cons d back =>
      obtain ⟨rfl, _⟩ := List.cons_eq_cons.mp same
      refine ⟨sigils, back, rfl, fun c member => ?_⟩
      rw [← sigils_eq] at member
      exact List.all_eq_true.mp List.all_takeWhile c member
  · rw [List.length_append] at ahead
    omega

theorem Made.positive {opening : Opening} (made : Made sigils quotes opening)
    (reads : opening.style.Reads cs n) : 0 < n := by
  cases made with
  | raw noAt many =>
    obtain ⟨body, rest, rfl, rfl, _, tail⟩ := exists_rawTail reads
    cases tail with
    | done enough => omega
    | quote | pass => exact Nat.succ_pos _
  | plain =>
    obtain ⟨body, rest, rfl, rfl, delimited⟩ := exists_delimited reads
    cases delimited <;> exact Nat.succ_pos _
  | verbatim =>
    obtain ⟨body, rest, rfl, rfl, _, doubled⟩ := exists_doubled reads
    cases doubled <;> exact Nat.succ_pos _
  | interpolated | verbatimInterpolated =>
    obtain ⟨body, rest, rfl, rfl, closes⟩ := exists_closes cs reads
    exact List.length_pos_iff.mpr closes.nonempty

theorem length_le {c : Char} {r : List Char} {opening : Opening}
    (found : of? (c :: r) = some opening) (read : opening.length r = .ok n) : n ≤ r.length := by
  obtain ⟨m, reads, rfl⟩ := length_eq_ok.mp read
  have positive := (of?_eq_some.mp found).positive reads
  have inside := reads.le
  rw [List.length_drop] at inside
  omega

/-- The quotes of an opening are told apart from those behind the string. -/
theorem of?_exchange {c : Char} {tail : List Char} {opening : Opening}
    (found : of? (c :: (tail ++ rest)) = some opening)
    (read : opening.length (tail ++ rest) = .ok tail.length)
    (edge : other.head? = some '"' → rest.head? = some '"') :
    of? (c :: (tail ++ other)) = some opening := by
  obtain ⟨m, reads, size⟩ := length_eq_ok.mp read
  rw [← List.cons_append] at found ⊢
  obtain ⟨sigils, back, split, all⟩ := exists_written found (by rw [List.length_cons]; omega)
  rw [split, List.append_assoc, List.cons_append] at found ⊢
  rw [of?_written all] at found ⊢
  have positive := found.positive reads
  have lengths := congrArg List.length split
  simp only [List.length_cons, List.length_append] at lengths
  have run (few : runLength (· = '"') (back ++ rest) ≤ back.length) :
      runLength (· = '"') (back ++ other) = runLength (· = '"') (back ++ rest) := by
    refine runLength_exchange few fun head => ?_
    obtain ⟨d, head, quote⟩ := (Option.any_eq_true ..).mp head
    rw [edge (of_decide_eq_true quote ▸ head)]
    rfl
  -- A verbatim string may open with any number of quotes, in the other cases they end inside.
  cases found with
  | verbatim oneAt noDollar => exact .verbatim oneAt noDollar (Nat.succ_pos _)
  | verbatimInterpolated oneAt dollar => exact .verbatimInterpolated oneAt dollar (Nat.succ_pos _)
  | raw noAt many =>
    dsimp only at size
    rw [← run (by omega)] at many ⊢
    exact .raw noAt many
  | plain noAt noDollar some few =>
    dsimp only at size
    rw [← run (by omega)] at few
    exact .plain noAt noDollar (Nat.succ_pos _) few
  | interpolated noAt dollar some few =>
    dsimp only at size
    rw [← run (by omega)] at few
    exact .interpolated noAt dollar (Nat.succ_pos _) few

end Opening

end Highlight
