import Highlight.Proofs.Scanning.Scan

/-! Readers make progress. Each step moves the cursor on or brings the reader closer to doing so,
and what one reader makes sure of before it calls another holds where that one starts. -/
namespace Highlight

variable {front before since rest : List Char} {c : Char} {r : List Char}

namespace Point

/-- What holds at a point of a reader that has read `since` and has `rest` in front of it. -/
def Fits (since rest : List Char) : Point → Prop
  | .lineBreak => since = [] ∧ rest.head?.any isLineBreak = true
  | .behindReturn => since = ['\r']
  | .run r => since = [] → rest.head?.any r.takes = true
  | .wordOpening => since = [] ∧ (rest.head? = some '@' ∨ rest.head?.any isWordStart = true)
  | .commentOpening => since = [] ∧ 2 ≤ rest.length
  | .string => since = [] ∧ rest.head? = some '"'
  | .sigils verbatim _ =>
    (∀ c ∈ since, isStringSigil c = true) ∧ (verbatim = true ↔ '@' ∈ since) ∧
      (Opening.of? (since ++ rest)).isSome
  | .rawOpening => 3 ≤ runLength (· = '"') rest
  | .bodyOpening _ _ => rest.head? = some '"' ∧ since.count '$' < 2
  | .body _ _ holes => since ≠ [] ∧ holes ≤ since.length
  | .characterOpening => since = [] ∧ rest.head? = some '\''
  | .number => since = [] → rest.head?.any Char.isDigit = true
  | .mark => since = [] ∧ rest ≠ []
  | .comment | .raw _ | .character | .ended _ => since ≠ []

/-- How many steps a reader may take before the cursor moves. It is `fresh` if it has read nothing
yet. -/
def rank (fresh : Bool) : Point → Nat
  | .run _ | .number => if fresh then 1 else 7
  | .wordOpening => 2
  | .lineBreak | .commentOpening | .rawOpening | .bodyOpening _ _ | .characterOpening | .mark => 3
  | .string | .sigils _ _ => 4
  | .comment | .raw _ | .body _ _ _ | .character => 5
  | .ended _ => 6
  | .behindReturn => 7

theorem rank_pos (point : Point) (fresh : Bool) : 0 < point.rank fresh := by
  cases fresh <;> cases point <;> simp [rank]

theorem rank_lt (point : Point) (fresh : Bool) : point.rank fresh < 8 := by
  cases fresh <;> cases point <;> simp [rank]

/-- A backslash escapes characters here. -/
def escapes : Point → Bool
  | .body _ _ _ | .character => true
  | _ => false

def isBody : Point → Bool
  | .body _ _ _ => true
  | _ => false

theorem Fits.behind {point : Point} (escapes : point.escapes = true) (fits : point.Fits since rest)
    (more rest' : List Char) : point.Fits (since ++ more) rest' := by
  cases point with
  | body =>
    refine ⟨List.append_ne_nil_of_left_ne_nil fits.1 more, ?_⟩
    rw [List.length_append]
    exact Nat.le_add_right_of_le fits.2
  | character => exact List.append_ne_nil_of_left_ne_nil fits more
  | _ => contradiction

end Point

/-- A move fits if the characters it skips are there, and the point it goes to fits. -/
def Move.Fits (since rest : List Char) (point : Point) : Move → Prop
  | .pass skips next =>
    skips ≤ rest.length ∧ next.Fits (since ++ rest.take skips) (rest.drop skips) ∧
      (skips = 0 → next.rank since.isEmpty < point.rank since.isEmpty)
  | .escape next => point = next ∧ next.escapes = true ∧ rest ≠ []
  | .newLine => point = .behindReturn
  | .call reader => point.isBody = true ∧ reader.Fits [] rest ∧ reader.rank true < 5
  | .leave kind => point = .ended kind
  | .fail _ => True

namespace Point

variable {point : Point} {verbatim interpolated : Bool} {holes : Nat}

theorem sigils_fits (found : (isStringSigil c && (Opening.of? (c :: r)).isSome) = true) :
    (sigils false false).Fits [] (c :: r) := by
  rw [Bool.and_eq_true] at found
  exact ⟨nofun, by simp, found.2⟩

/-- The reader can start at `c`, when `r` is behind it. -/
def Starts (c : Char) (r : List Char) (reader : Point) : Prop :=
  reader.Fits [] (c :: r) ∧ reader.rank true < 5

theorem starts_of_ite {p : Prop} [Decidable p] {first reader : Point} {other? : Option Point}
    (here : p → first.Starts c r) (there : other? = some reader → reader.Starts c r)
    (found : (if p then some first else other?) = some reader) : reader.Starts c r := by
  by_cases holds : p
  · rw [if_pos holds, Option.some.injEq] at found
    exact found ▸ here holds
  · rw [if_neg holds] at found
    exact there found

/-- The reader that is chosen can start here. -/
theorem starts_of_reader? {lineStart sigils : Bool} {reader : Point}
    (opens : sigils = true → (Point.sigils false false).Fits [] (c :: r)) :
    reader? lineStart sigils c r = some reader → reader.Starts c r := by
  unfold reader?
  simp only [Bool.and_eq_true, decide_eq_true_eq]
  refine starts_of_ite (fun lineBreak => ⟨⟨rfl, lineBreak⟩, by decide⟩) ?_
  refine starts_of_ite (fun hash => ⟨fun _ => hash.2 ▸ rfl, by decide⟩) ?_
  refine starts_of_ite (fun blank => ⟨fun _ => blank, by decide⟩) ?_
  refine starts_of_ite (fun slash => ⟨fun _ => slash.1 ▸ rfl, by decide⟩) ?_
  refine starts_of_ite (fun slash => ⟨⟨rfl, ?_⟩, by decide⟩) ?_
  · obtain ⟨r, rfl⟩ := List.head?_eq_some_iff.mp slash.2
    exact Nat.le_add_left 2 r.length
  refine starts_of_ite (fun quote => ⟨⟨rfl, congrArg some quote⟩, by decide⟩) ?_
  refine starts_of_ite (fun sigils => ⟨opens sigils, by decide⟩) ?_
  refine starts_of_ite (fun apostrophe => ⟨⟨rfl, congrArg some apostrophe⟩, by decide⟩) ?_
  refine starts_of_ite (fun digit => ⟨fun _ => digit, by decide⟩) ?_
  refine starts_of_ite (fun verbatim => ⟨⟨rfl, .inl (congrArg some verbatim.1)⟩, by decide⟩) ?_
  refine starts_of_ite (fun word => ⟨⟨rfl, .inr word⟩, by decide⟩) ?_
  exact starts_of_ite (fun _ => ⟨⟨rfl, List.cons_ne_nil c r⟩, by decide⟩) nofun

theorem exists_made (all : ∀ c ∈ since, isStringSigil c = true)
    (stop : rest.head?.any isStringSigil = false) (opens : (Opening.of? (since ++ rest)).isSome) :
    ∃ opening, Opening.Made since (runLength (· = '"') rest) opening := by
  obtain ⟨opening, found⟩ := Option.isSome_iff_exists.mp opens
  have none : rest.takeWhile isStringSigil = [] :=
    List.length_eq_zero_iff.mp (runLength_eq_zero.mpr stop)
  have whole := List.takeWhile_append_dropWhile (p := isStringSigil) (l := rest)
  rw [none, List.nil_append] at whole
  rw [Opening.of?_eq_some, List.takeWhile_append_of_pos all, List.dropWhile_append_of_pos all,
    none, whole, List.append_nil] at found
  exact ⟨opening, found⟩

/-- Only a raw string has more than one dollar. -/
theorem count_lt_of_made {opening : Opening} (made : Opening.Made since quotes opening)
    (other : '@' ∈ since ∨ quotes < 3) : since.count '$' < 2 := by
  cases made with
  | raw noAt many =>
    rcases other with member | few
    · exact absurd member (List.count_eq_zero.mp noAt)
    · omega
  | plain _ dollars | interpolated _ dollars | verbatim _ dollars
  | verbatimInterpolated _ dollars => omega

theorem pass_fits {next : Point} (fits : next.Fits (since ++ [c]) r) :
    (Move.pass 1 next).Fits since (c :: r) point :=
  ⟨Nat.le_add_left .., fits, nofun⟩

theorem pass_two_fits {next : Point} (second : r.head? = some d)
    (fits : ∀ more rest, next.Fits (since ++ more) rest) :
    (Move.pass 2 next).Fits since (c :: r) point := by
  obtain ⟨r, rfl⟩ := List.head?_eq_some_iff.mp second
  exact ⟨Nat.le_add_left .., fits _ _, nofun⟩

/-- At the end of the sigils a string is opened, and more than one dollar opens a raw string. -/
theorem moveInSigils_fits (fits : (sigils verbatim interpolated).Fits since rest) :
    (moveInSigils verbatim interpolated rest).Fits since rest (.sigils verbatim interpolated) := by
  obtain ⟨all, ats, opens⟩ := fits
  cases stop : rest.head?.any isStringSigil with
  | true =>
    obtain ⟨c, head, sigil⟩ := (Option.any_eq_true ..).mp stop
    obtain ⟨r, rfl⟩ := List.head?_eq_some_iff.mp head
    rw [moveInSigils, if_pos sigil]
    have fits : (sigils (verbatim || c = '@') (interpolated || c = '$')).Fits (since ++ [c]) r := by
      refine ⟨fun d member => ?_, ?_, ?_⟩
      · rcases List.mem_append.mp member with member | member
        · exact all d member
        · exact List.mem_singleton.mp member ▸ sigil
      · rw [Bool.or_eq_true, decide_eq_true_eq, ats, List.mem_append, List.mem_singleton,
          eq_comm (a := c)]
      · rwa [List.append_assoc]
    exact pass_fits fits
  | false =>
    obtain ⟨opening, made⟩ := exists_made all stop opens
    have quote := (head?_eq_quote rest).mpr (Nat.ne_of_gt made.ahead.2)
    obtain ⟨r, rfl⟩ := List.head?_eq_some_iff.mp quote
    rw [moveInSigils, if_neg (by decide)]
    split
    · next raw =>
      simp only [Bool.and_eq_true, decide_eq_true_eq] at raw
      exact ⟨Nat.zero_le _, raw.2, fun _ => Nat.lt_succ_self 3⟩
    · next other =>
      simp only [Bool.and_eq_true, decide_eq_true_eq, Bool.not_eq_true', not_and, Nat.not_le]
        at other
      refine ⟨Nat.zero_le _, ⟨quote, ?_⟩, fun _ => Nat.lt_succ_self 3⟩
      rw [List.take_zero, List.append_nil]
      refine count_lt_of_made made ?_
      cases verbatim with
      | true => exact .inl (ats.mp rfl)
      | false => exact .inr (other rfl)

/-- Sigils that are asked for are there, so that the reader of strings can be called. -/
theorem moveInBody_fits {asked : Bool} (fits : (body verbatim interpolated holes).Fits since rest)
    (asks : asked = true → rest.head?.any isStringSigil = true) :
    (moveInBody verbatim interpolated holes (asked && (Opening.of? rest).isSome) rest).Fits since
      rest (.body verbatim interpolated holes) := by
  cases rest with
  | nil => trivial
  | cons c r =>
    have same : (body verbatim interpolated holes).Fits (since ++ [c]) r := fits.behind rfl [c] r
    have nonempty : since ++ [c] ≠ [] := same.1
    have more : holes + 1 ≤ (since ++ [c]).length := by
      rw [List.length_append]
      exact Nat.succ_le_succ fits.2
    unfold moveInBody
    dsimp only
    split
    · trivial
    split
    · split
      · next braces =>
        simp only [Bool.and_eq_true, decide_eq_true_eq] at braces
        exact pass_two_fits braces.2 (fits.behind rfl)
      · exact pass_fits ⟨nonempty, more⟩
    split
    · exact pass_fits ⟨nonempty, by omega⟩
    split
    · next quote =>
      simp only [Bool.and_eq_true, decide_eq_true_eq] at quote
      exact ⟨rfl, ⟨rfl, congrArg some quote.1⟩, by decide⟩
    split
    · next opens =>
      rw [Bool.and_eq_true] at opens
      exact ⟨rfl, sigils_fits (Bool.and_eq_true_iff.mpr ⟨asks opens.1, opens.2⟩), by decide⟩
    split
    · next apostrophe =>
      simp only [Bool.and_eq_true, decide_eq_true_eq] at apostrophe
      exact ⟨rfl, ⟨rfl, congrArg some apostrophe.1⟩, by decide⟩
    split
    · next pair =>
      simp only [Bool.and_eq_true, decide_eq_true_eq] at pair
      exact pass_two_fits pair.2 (fits.behind rfl)
    split
    · exact pass_fits nonempty
    split
    · exact ⟨rfl, rfl, List.cons_ne_nil c r⟩
    · exact pass_fits same

section

variable (nonempty : since ≠ [])
include nonempty

theorem moveInComment_fits : (moveInComment rest).Fits since rest .comment := by
  have behind (more) : since ++ more ≠ [] := List.append_ne_nil_of_left_ne_nil nonempty more
  cases rest with
  | nil => trivial
  | cons c r =>
    rw [moveInComment]
    split
    · next closes =>
      simp only [Bool.and_eq_true, decide_eq_true_eq] at closes
      exact pass_two_fits closes.2 fun _ _ => behind _
    · exact pass_fits (behind _)

theorem moveInRaw_fits : (moveInRaw quotes rest).Fits since rest (.raw quotes) := by
  have behind (more) : since ++ more ≠ [] := List.append_ne_nil_of_left_ne_nil nonempty more
  cases rest with
  | nil => trivial
  | cons c r =>
    rw [moveInRaw]
    dsimp only
    split
    · next quote =>
      refine ⟨runLength_le _ _, ?_, fun none => ?_⟩
      · split <;> exact behind _
      · rw [runLength_cons, if_pos (decide_eq_true quote)] at none
        contradiction
    · exact pass_fits (behind _)

theorem moveInCharacter_fits : (moveInCharacter rest).Fits since rest .character := by
  have behind (more) : since ++ more ≠ [] := List.append_ne_nil_of_left_ne_nil nonempty more
  cases rest with
  | nil => trivial
  | cons c r =>
    rw [moveInCharacter]
    split
    · trivial
    split
    · exact ⟨rfl, rfl, List.cons_ne_nil c r⟩
    split
    · exact pass_fits (behind _)
    · exact pass_fits (behind _)

end

/-- A reader that has read something leaves in front of what does not belong to the lexeme. -/
theorem leave_fits {kind : LexemeKind} (nonempty : since ≠ []) (old : point.rank false = 7) :
    (Move.pass 0 (.ended kind)).Fits since rest point := by
  refine ⟨Nat.zero_le _, List.append_ne_nil_of_left_ne_nil nonempty _, fun _ => ?_⟩
  rw [List.isEmpty_eq_false_iff.mpr nonempty, old]
  exact Nat.lt_succ_self 6

theorem move_run_fits {k : Run} (fits : (run k).Fits since rest) :
    (if rest.head?.any k.takes then Move.pass 1 (.run k) else .pass 0 (.ended k.kind)).Fits since
      rest (.run k) := by
  split
  · next takes =>
    obtain ⟨c, head, _⟩ := (Option.any_eq_true ..).mp takes
    obtain ⟨r, rfl⟩ := List.head?_eq_some_iff.mp head
    exact pass_fits fun none => absurd none (by simp)
  · next stops => exact leave_fits (fun none => stops (fits none)) rfl

theorem moveInNumber_fits (fits : number.Fits since rest) :
    (moveInNumber rest).Fits since rest .number := by
  cases rest with
  | nil => exact leave_fits (fun none => nomatch fits none) rfl
  | cons c r =>
    rw [moveInNumber]
    split
    · exact pass_fits fun none => absurd none (by simp)
    · next stops =>
      refine leave_fits (fun none => stops ?_) rfl
      have digit : c.isDigit = true := fits none
      simp [Char.isAlphanum, digit]

/-- Wherever a reader stands, its move fits. -/
theorem moveAt_fits (fits : point.Fits since rest) :
    (point.moveAt rest).Fits since rest point := by
  unfold moveAt moveWith
  cases point with
  | lineBreak =>
    obtain ⟨rfl, lineBreak⟩ := fits
    obtain ⟨c, head, _⟩ := (Option.any_eq_true ..).mp lineBreak
    obtain ⟨r, rfl⟩ := List.head?_eq_some_iff.mp head
    refine pass_fits ?_
    split
    · next found => exact congrArg (fun c => [c]) (Option.some.inj found)
    · exact List.cons_ne_nil c []
  | behindReturn =>
    dsimp only
    split
    · next feed =>
      obtain ⟨r, rfl⟩ := List.head?_eq_some_iff.mp feed
      exact pass_fits (List.append_ne_nil_of_right_ne_nil _ (List.cons_ne_nil _ _))
    · rfl
  | run k => exact move_run_fits fits
  | wordOpening =>
    obtain ⟨rfl, start⟩ := fits
    dsimp only
    split
    · next verbatim =>
      obtain ⟨r, rfl⟩ := List.head?_eq_some_iff.mp verbatim
      exact pass_fits fun none => absurd none (List.cons_ne_nil _ _)
    · next other =>
      obtain ⟨c, head, word⟩ := (Option.any_eq_true ..).mp (start.resolve_left other)
      refine ⟨Nat.zero_le _, fun _ => ?_, fun _ => Nat.lt_succ_self 1⟩
      exact (Option.any_eq_true ..).mpr ⟨c, head, isWordContinue_of_isWordStart word⟩
  | commentOpening =>
    obtain ⟨rfl, enough⟩ := fits
    refine ⟨enough, fun none => ?_, fun none => absurd none (by decide)⟩
    have size := congrArg List.length none
    rw [List.nil_append, List.length_take_of_le enough] at size
    contradiction
  | comment => exact moveInComment_fits fits
  | string =>
    obtain ⟨rfl, quote⟩ := fits
    refine ⟨Nat.zero_le _, ?_, fun _ => ?_⟩
    · split
      · next many => exact many
      · exact ⟨quote, Nat.zero_lt_two⟩
    · split <;> exact Nat.lt_succ_self 3
  | sigils verbatim interpolated => exact moveInSigils_fits fits
  | rawOpening =>
    have inside := runLength_le (· = '"') rest
    have many : 3 ≤ runLength (· = '"') rest := fits
    refine ⟨inside, fun none => ?_, fun none => ?_⟩
    · have size := congrArg List.length (List.append_eq_nil_iff.mp none).2
      rw [List.length_take_of_le inside] at size
      exact absurd size (by simp; omega)
    · omega
  | raw quotes => exact moveInRaw_fits fits
  | bodyOpening verbatim interpolated =>
    obtain ⟨r, rfl⟩ := List.head?_eq_some_iff.mp fits.1
    exact pass_fits ⟨by simp, Nat.zero_le _⟩
  | body verbatim interpolated holes =>
    exact moveInBody_fits fits fun asked => (Bool.and_eq_true_iff.mp asked).2
  | characterOpening =>
    obtain ⟨r, rfl⟩ := List.head?_eq_some_iff.mp fits.2
    exact pass_fits (by simp [Fits])
  | character => exact moveInCharacter_fits fits
  | number => exact moveInNumber_fits fits
  | mark =>
    obtain ⟨c, r, rfl⟩ := List.exists_cons_of_ne_nil fits.2
    exact pass_fits (by simp [Fits])
  | ended kind => exact rfl

end Point
end Highlight
