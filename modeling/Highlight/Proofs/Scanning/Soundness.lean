import Highlight.Proofs.Scanning.Progress

/-! The states of a scan. The cursor stands at a boundary with all characters ahead that are to be
skipped, and each reader started further on than the one that called it. A step leads further. -/
namespace Highlight

theorem byteLength_eq_zero {cs : List Char} : byteLength cs = 0 ↔ cs = [] := by
  cases cs with
  | nil => simp [byteLength]
  | cons c cs => simp [byteLength, Nat.ne_of_gt c.utf8Size_pos]

theorem length_le_byteLength (cs : List Char) : cs.length ≤ byteLength cs := by
  induction cs with
  | nil => exact Nat.le_refl 0
  | cons c cs ih =>
    have size := c.utf8Size_pos
    rw [byteLength, List.length_cons]
    omega

namespace Position

/-- No counter exceeds the number of bytes in front by more than one. -/
def Bounded (p : Position) : Prop :=
  1 ≤ p.column ∧ p.line + p.column ≤ p.offset + 2

theorem Bounded.next {p : Position} (bounded : p.Bounded) (c : Char) : (p.next c).Bounded := by
  obtain ⟨column, sum⟩ := bounded
  have size := c.utf8Size_pos
  unfold Bounded Position.next
  split
  · dsimp only
    omega
  · dsimp only
    omega

end Position

/-- The reader `inner` has started further on than `outer`. -/
def Frame.Within (inner outer : Frame) : Prop :=
  outer.start.offset < inner.start.offset

/-- Readers that wait for another one, which started behind `front`. All of them read strings. -/
inductive Suspended : List Char → List Frame → Prop
  | none (front : List Char) : Suspended front []
  | body (read : since ≠ []) (bound : holes ≤ since.length) (start : p.offset = byteLength before)
      (outer : Suspended before below) :
      Suspended (before ++ since) (⟨.body verbatim interpolated holes, p⟩ :: below)

/-- The reader on top fits the text behind and in front of it. -/
inductive AtWork (rest : List Char) : List Char → List Frame → Prop
  | none (front : List Char) : AtWork rest front []
  | reader (fits : point.Fits since rest) (start : p.offset = byteLength before)
      (outer : Suspended before below) : AtWork rest (before ++ since) (⟨point, p⟩ :: below)

variable {front rest before since : List Char} {frames below : List Frame} {point : Point}
  {p : Position} {f : Frame}

/-- The reader that has called another one goes on behind what that one has read. -/
theorem Suspended.atWork (suspended : Suspended before below) (since rest : List Char) :
    AtWork rest (before ++ since) below := by
  cases suspended with
  | none => exact .none _
  | body read bound start outer =>
    rw [List.append_assoc]
    refine .reader ⟨List.append_ne_nil_of_left_ne_nil read since, ?_⟩ start outer
    rw [List.length_append]
    exact Nat.le_add_right_of_le bound

theorem AtWork.exists_reader (atWork : AtWork rest front (f :: below)) :
    ∃ before since, front = before ++ since ∧ f.point.Fits since rest ∧
      f.start.offset = byteLength before ∧ Suspended before below := by
  cases atWork with
  | reader fits start outer => exact ⟨_, _, rfl, fits, start, outer⟩

theorem Suspended.start_lt (suspended : Suspended front below) :
    ∀ f ∈ below, f.start.offset < byteLength front := by
  induction suspended with
  | none => exact nofun
  | @body since holes p before below verbatim interpolated read _ start _ ih =>
    have size := length_le_byteLength since
    have some := List.length_pos_iff.mpr read
    rw [byteLength_append]
    refine List.forall_mem_cons.mpr ⟨?_, fun f member => ?_⟩
    · dsimp only
      omega
    · have less := ih f member
      omega

theorem Suspended.pairwise (suspended : Suspended front below) : below.Pairwise Frame.Within := by
  induction suspended with
  | none => exact .nil
  | body _ _ start outer ih =>
    exact .cons (fun f member => (outer.start_lt f member).trans_eq start.symm) ih

/-- A string has no more braces open than there are bytes in front. -/
theorem Suspended.holes_le (suspended : Suspended front below) :
    ∀ p, ⟨.body verbatim interpolated holes, p⟩ ∈ below → holes ≤ byteLength front := by
  induction suspended with
  | none => exact nofun
  | @body since holes p before below verbatim interpolated read bound _ _ ih =>
    have size := length_le_byteLength since
    rw [byteLength_append]
    rintro q (_ | ⟨_, member⟩)
    · omega
    · have less := ih q member
      omega

theorem AtWork.pairwise (atWork : AtWork rest front frames) : frames.Pairwise Frame.Within := by
  cases atWork with
  | none => exact .nil
  | reader _ start outer =>
    exact .cons (fun f member => (outer.start_lt f member).trans_eq start.symm) outer.pairwise

theorem AtWork.holes_le (atWork : AtWork rest front frames) :
    ∀ p, ⟨.body verbatim interpolated holes, p⟩ ∈ frames → holes ≤ byteLength front := by
  cases atWork with
  | none => exact nofun
  | @reader _ _ since _ _ fits _ outer =>
    have size := length_le_byteLength since
    rw [byteLength_append]
    rintro q (_ | ⟨_, member⟩)
    · have bound := fits.2
      omega
    · have less := outer.holes_le q member
      omega

namespace Scan

/-- What a scan keeps up from step to step. The reader on top fits once the pending characters are
skipped. -/
structure Sound (s : Scan) (front rest : List Char) : Prop where
  between : s.cursor.Between front rest
  ahead : s.skips ≤ rest.length
  atWork : AtWork (rest.drop s.skips) (front ++ rest.take s.skips) s.frames
  escape : s.escape = true → ∃ f below, s.frames = f :: below ∧ f.point.escapes = true
  bounded : s.cursor.position.Bounded
  column : ∀ f below, s.frames = f :: below → f.point = .behindReturn → s.skips = 0 →
    2 ≤ s.cursor.position.column

/-- How many steps may be taken before the cursor moves. -/
def rank (s : Scan) : Nat :=
  if 0 < s.skips then 0
  else if s.escape then 6
  else match s.frames with
    | [] => 5
    | f :: _ => f.point.rank (f.start.offset = s.cursor.position.offset)

/-- The cursor of `t` is further on, or comes to be in fewer steps. -/
def Further (s t : Scan) : Prop :=
  s.cursor.position.offset < t.cursor.position.offset ∨
    s.cursor.position.offset = t.cursor.position.offset ∧ t.rank < s.rank

end Scan

/-- If the scan goes on, it does so in a sound state that is further on. -/
def Outcome.Advances (s : Scan) : Outcome → Prop
  | .more t => t.cursor.text = s.cursor.text ∧ (∃ front rest, t.Sound front rest) ∧ s.Further t ∧
      (0 < s.skips → s.cursor.position.offset < t.cursor.position.offset)
  | .done _ | .failed _ => True

namespace Scan

variable {s : Scan}

@[simp] theorem close_cursor (s : Scan) : (s.close f below kind text).cursor = s.cursor := by
  cases below <;> rfl

theorem rank_of_skips (pending : 0 < s.skips) : s.rank = 0 := if_pos pending

theorem rank_pos (none : s.skips = 0) : 0 < s.rank := by
  unfold rank
  rw [if_neg (by omega)]
  split
  · decide
  split
  · decide
  · exact Point.rank_pos _ _

theorem rank_lt (s : Scan) : s.rank < 8 := by
  unfold rank
  split
  · decide
  split
  · decide
  split
  · decide
  · exact Point.rank_lt _ _

theorem rank_of_ready (none : s.skips = 0) (escape : s.escape = false) :
    s.rank = match s.frames with
      | [] => 5
      | f :: _ => f.point.rank (f.start.offset = s.cursor.position.offset) := by
  rw [rank, if_neg (by omega), escape]
  rfl

theorem rank_of_frames (none : s.skips = 0) (escape : s.escape = false)
    (frames : s.frames = f :: below) (between : s.cursor.Between (before ++ since) rest)
    (start : f.start.offset = byteLength before) : s.rank = f.point.rank since.isEmpty := by
  have fresh : decide (f.start.offset = s.cursor.position.offset) = since.isEmpty := by
    rw [start, between.offset, byteLength_append, Bool.eq_iff_iff, decide_eq_true_eq,
      List.isEmpty_iff, ← byteLength_eq_zero]
    omega
  rw [rank_of_ready none escape, frames, ← fresh]

namespace Sound

/-- A pending character is skipped, and the cursor moves. -/
theorem skip (sound : s.Sound front rest) (pending : 0 < s.skips) :
    ∃ o, s.step = .ok o ∧ o.Advances s := by
  obtain ⟨between, ahead, atWork, escape, bounded, column⟩ := sound
  obtain ⟨c, r, rfl⟩ := List.exists_cons_of_length_pos (Nat.lt_of_lt_of_le pending ahead)
  have moved : s.cursor.position.offset < (s.cursor.after [c]).position.offset := by
    have size := c.utf8Size_pos
    rw [Cursor.after, Position.offset_after, byteLength, byteLength]
    omega
  refine ⟨_, step_skip between pending, rfl, ⟨front ++ [c], r, ?_⟩, .inl moved, fun _ => moved⟩
  obtain ⟨n, skips⟩ := Nat.exists_eq_add_of_lt pending
  rw [Nat.zero_add] at skips
  rw [skips, List.take_succ_cons, List.drop_succ_cons] at atWork
  rw [skips, List.length_cons] at ahead
  refine ⟨between.after, ?_, ?_, escape, bounded.next c, ?_⟩
  · rw [skips]
    exact Nat.le_of_succ_le_succ ahead
  · rw [skips, Nat.add_sub_cancel, List.append_assoc]
    exact atWork
  · intro f below frames point last
    obtain rfl : n = 0 := by simpa [skips] using last
    rw [frames] at atWork
    obtain ⟨before, since, split, fits, _⟩ := atWork.exists_reader
    rw [point] at fits
    obtain rfl : since = ['\r'] := fits
    -- The return has taken a column, which a new line then takes back.
    obtain rfl : c = '\r' := List.cons.inj (List.append_inj' split rfl).2 |>.1
    exact Nat.succ_le_succ bounded.1

theorem now (sound : s.Sound front rest) (none : s.skips = 0) : AtWork rest front s.frames := by
  have atWork := sound.atWork
  rwa [none, List.drop_zero, List.take_zero, List.append_nil] at atWork

theorem unescape (sound : s.Sound front rest) (none : s.skips = 0) (escape : s.escape = true) :
    ∃ o, s.step = .ok o ∧ o.Advances s := by
  obtain ⟨f, below, frames, escapes⟩ := sound.escape escape
  have now := sound.now none
  rw [frames] at now
  obtain ⟨before, since, rfl, fits, start, outer⟩ := now.exists_reader
  have old : s.rank = 6 := by rw [Scan.rank, if_neg (by omega), if_pos escape]
  have five (fresh : Bool) : f.point.rank fresh = 5 := by
    cases point : f.point <;> first | rfl | (rw [point] at escapes; contradiction)
  refine ⟨_, step_escape sound.between none escape, rfl, ⟨before ++ since, rest, ?_⟩,
    .inr ⟨rfl, ?_⟩, by omega⟩
  · refine ⟨sound.between, ?_, ?_, nofun, sound.bounded, ?_⟩
    · dsimp only
      split
      · next found =>
        obtain ⟨c, head, _⟩ := (Option.any_eq_true ..).mp found
        obtain ⟨r, rfl⟩ := List.head?_eq_some_iff.mp head
        exact Nat.le_add_left ..
      · exact Nat.zero_le _
    · rw [List.append_assoc]
      dsimp only
      rw [frames]
      exact .reader (fits.behind escapes _ _) start outer
    · intro g below' same point
      obtain rfl := (List.cons.inj (frames.symm.trans same)).1
      rw [point] at escapes
      contradiction
  · rw [old]
    split
    · exact Nat.succ_pos 5
    · rw [rank_of_ready rfl rfl]
      dsimp only
      rw [frames]
      exact Nat.lt_succ_of_le (five _).le

/-- Another reader starts at the cursor. -/
theorem call {reader : Point} (sound : s.Sound front rest) (none : s.skips = 0)
    (escape : s.escape = false) (fits : reader.Fits [] rest) (few : reader.rank true < 5)
    (suspended : Suspended front below) :
    { s with frames := ⟨reader, s.cursor.position⟩ :: below }.Sound front rest ∧
      { s with frames := ⟨reader, s.cursor.position⟩ :: below }.rank < 5 := by
  have between : s.cursor.Between (front ++ []) rest := by
    rw [List.append_nil]
    exact sound.between
  refine ⟨⟨sound.between, sound.ahead, ?_, ?_, sound.bounded, ?_⟩, ?_⟩
  · dsimp only
    rw [none]
    exact .reader fits sound.between.offset suspended
  · exact fun pending => absurd (escape.symm.trans pending) nofun
  · intro f below' same point
    obtain ⟨rfl, rfl⟩ := List.cons.inj same
    obtain rfl : reader = .behindReturn := point
    exact absurd few (by decide)
  · have rank := rank_of_frames (s := { s with frames := ⟨reader, s.cursor.position⟩ :: below })
      none escape rfl between sound.between.offset
    rwa [rank]

theorem begin (sound : s.Sound front rest) (none : s.skips = 0) (escape : s.escape = false)
    (frames : s.frames = []) : ∃ o, s.step = .ok o ∧ o.Advances s := by
  have old : s.rank = 5 := by rw [rank_of_ready none escape, frames]
  rw [step_begin sound.between none escape frames]
  cases rest with
  | nil => exact ⟨_, rfl, trivial⟩
  | cons c r =>
    rw [begin_cons]
    split
    · next reader found =>
      obtain ⟨fits, few⟩ := Point.starts_of_reader? Point.sigils_fits found
      obtain ⟨called, rank⟩ := sound.call none escape fits few (.none front)
      exact ⟨_, rfl, rfl, ⟨front, c :: r, called⟩, .inr ⟨rfl, old ▸ rank⟩, by omega⟩
    · exact ⟨_, rfl, trivial⟩

/-- A reader ends, and the one below goes on, or the next lexeme is begun. -/
theorem close (sound : s.Sound (before ++ since) rest) (none : s.skips = 0)
    (escape : s.escape = false) (outer : Suspended before below) (kind : LexemeKind)
    (text : String) :
    (s.close f below kind text).Sound (before ++ since) rest ∧
      (s.close f below kind text).rank = 5 := by
  have noEscape {p : Prop} (pending : s.escape = true) : p :=
    absurd (escape.symm.trans pending) nofun
  have atWork : AtWork (rest.drop s.skips) (before ++ since ++ rest.take s.skips) below := by
    rw [List.append_assoc]
    exact outer.atWork _ _
  cases outer with
  | none =>
    refine ⟨⟨sound.between, sound.ahead, atWork, noEscape, sound.bounded, nofun⟩, ?_⟩
    exact rank_of_ready none escape
  | body =>
    refine ⟨⟨sound.between, sound.ahead, atWork, noEscape, sound.bounded, ?_⟩, ?_⟩
    · intro g below' same point
      obtain ⟨rfl, rfl⟩ := List.cons.inj same
      contradiction
    · exact rank_of_ready none escape

/-- The reader on top takes its move. -/
theorem act (sound : s.Sound front rest) (none : s.skips = 0) (escape : s.escape = false)
    (frames : s.frames = f :: below) : ∃ o, s.step = .ok o ∧ o.Advances s := by
  have now := sound.now none
  rw [frames] at now
  obtain ⟨before, since, rfl, fits, start, outer⟩ := now.exists_reader
  have old := rank_of_frames none escape frames sound.between start
  have noEscape {p : Prop} (pending : s.escape = true) : p :=
    absurd (escape.symm.trans pending) nofun
  have moved := Point.moveAt_fits fits
  rw [step_act sound.between none escape frames rfl]
  obtain ⟨point, p⟩ := f
  dsimp only at *
  generalize point.moveAt rest = m at moved ⊢
  cases m with
  | pass skips next =>
    obtain ⟨ahead, fits, lower⟩ := moved
    refine ⟨_, rfl, rfl, ⟨before ++ since, rest, ?_⟩, .inr ⟨rfl, ?_⟩, by omega⟩
    · refine ⟨sound.between, ahead, ?_, noEscape, sound.bounded, ?_⟩
      · rw [List.append_assoc]
        exact .reader fits start outer
      · intro g below' same returned now
        obtain ⟨rfl, rfl⟩ := List.cons.inj same
        obtain rfl : next = .behindReturn := returned
        exact absurd (lower now) (Nat.not_lt_of_le (Nat.le_of_lt_succ (point.rank_lt _)))
    · rcases Nat.eq_zero_or_pos skips with rfl | pending
      · have new := rank_of_frames (s := { s with skips := 0, frames := ⟨next, p⟩ :: below }) rfl
          escape rfl sound.between start
        rw [new, old]
        exact lower rfl
      · rw [rank_of_skips pending]
        exact rank_pos none
  | escape next =>
    obtain ⟨rfl, escapes, nonempty⟩ := moved
    refine ⟨_, rfl, rfl, ⟨before ++ since, rest, ?_⟩, .inr ⟨rfl, rank_pos none⟩, by omega⟩
    refine ⟨sound.between, List.length_pos_iff.mpr nonempty, ?_, fun _ => ⟨_, _, rfl, escapes⟩,
      sound.bounded, fun _ _ _ _ => nofun⟩
    rw [List.append_assoc]
    exact .reader (fits.behind escapes _ _) start outer
  | newLine =>
    obtain rfl : point = .behindReturn := moved
    have column := sound.column _ _ frames rfl none
    obtain rfl : since = ['\r'] := fits
    have sum := sound.bounded.2
    refine ⟨_, rfl, rfl, ⟨before ++ ['\r'], rest, ?_⟩, .inr ⟨rfl, ?_⟩, by omega⟩
    · refine ⟨⟨sound.between.text, sound.between.offset⟩, sound.ahead, ?_, noEscape, ?_,
        fun _ _ same => ?_⟩
      · dsimp only
        rw [none, List.take_zero, List.append_nil]
        exact .reader (List.cons_ne_nil _ _) start outer
      · refine ⟨Nat.le_refl 1, ?_⟩
        dsimp only [Cursor.newLine]
        omega
      · obtain ⟨rfl, rfl⟩ := List.cons.inj same
        exact nofun
    · have new := rank_of_ready (s := { s with
        cursor := s.cursor.newLine
        frames := ⟨.ended .newline, p⟩ :: below }) none escape
      rw [new, old]
      exact Nat.lt_succ_self 6
  | call reader =>
    obtain ⟨body, fitsReader, few⟩ := moved
    cases point with
    | body verbatim interpolated holes =>
      have suspended : Suspended (before ++ since)
          (⟨.body verbatim interpolated holes, p⟩ :: below) := .body fits.1 fits.2 start outer
      have called := sound.call none escape fitsReader few suspended
      exact ⟨_, rfl, rfl, ⟨_, rest, called.1⟩, .inr ⟨rfl, old ▸ called.2⟩, by omega⟩
    | _ => contradiction
  | leave kind =>
    obtain rfl : point = .ended kind := moved
    have text := sound.between.cut
    rw [← start] at text
    have closed := sound.close none escape outer kind (String.ofList since) (f := ⟨.ended kind, p⟩)
    rw [Scan.act, text]
    refine ⟨_, rfl, congrArg Cursor.text s.close_cursor, ⟨_, rest, closed.1⟩, .inr ⟨?_, ?_⟩,
      by omega⟩
    · rw [s.close_cursor]
    · rw [closed.2, old]
      exact Nat.lt_succ_self 5
  | fail fault => exact ⟨_, rfl, trivial⟩

/-- A sound state never fails to cut the text, and goes over into another one or ends. -/
theorem step (sound : s.Sound front rest) : ∃ o, s.step = .ok o ∧ o.Advances s := by
  by_cases pending : 0 < s.skips
  · exact sound.skip pending
  have none := Nat.eq_zero_of_not_pos pending
  cases escape : s.escape with
  | true => exact sound.unescape none escape
  | false =>
    cases frames : s.frames with
    | nil => exact sound.begin none escape frames
    | cons f below => exact sound.act none escape frames

end Sound
end Scan
end Highlight
