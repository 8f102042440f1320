import Highlight.Proofs.Scanning.Agreement
import Highlight.Proofs.Scanning.Soundness

/-! Scans of texts are safe. They come to an end, cut the texts between characters only, and get
further with each round of each loop. -/
namespace Highlight

/-- The main loop, which begins lexemes, and the loops of the readers. -/
inductive Loop
  | lexemes
  | run (r : Run)
  | comment
  | sigils
  | raw
  | body
  | character
  | number
deriving DecidableEq, Repr

namespace Loop

def rank (fresh : Bool) : Loop → Nat
  | .run _ | .number => if fresh then 1 else 7
  | .sigils => 4
  | .lexemes | .comment | .raw | .body | .character => 5

end Loop

/-- The loop at whose head a reader is. -/
def Point.loop? : Point → Option Loop
  | .run r => some (.run r)
  | .comment => some .comment
  | .sigils _ _ => some .sigils
  | .raw _ => some .raw
  | .body _ _ _ => some .body
  | .character => some .character
  | .number => some .number
  | _ => none

theorem Point.rank_of_loop? {point : Point} {l : Loop} (head : point.loop? = some l)
    (fresh : Bool) : point.rank fresh = l.rank fresh := by
  cases point <;> cases head <;> rfl

namespace Scan

/-- The loop at whose head the scan stands, and the byte where its reader started. A reader that
calls itself starts further on, so that this tells its loops apart. -/
def loop? (s : Scan) : Option (Loop × Nat) :=
  if 0 < s.skips || s.escape then none
  else match s.frames with
    | [] => some (.lexemes, 0)
    | f :: _ => f.point.loop?.map (·, f.start.offset)

variable {s t u : Scan} {text : String} {front rest : List Char} {below : List Frame} {p : Position}

theorem ready_of_loop? (head : s.loop? ≠ none) : s.skips = 0 ∧ s.escape = false := by
  unfold loop? at head
  split at head
  · contradiction
  · next ready =>
    simp only [Bool.or_eq_true, decide_eq_true_eq, not_or, Bool.not_eq_true] at ready
    exact ⟨Nat.eq_zero_of_not_pos ready.1, ready.2⟩

theorem rank_of_loop? {l : Loop × Nat} (head : s.loop? = some l) :
    s.rank = l.1.rank (l.2 = s.cursor.position.offset) := by
  obtain ⟨none, escape⟩ := ready_of_loop? (head ▸ Option.some_ne_none l)
  rw [rank_of_ready none escape]
  rw [loop?, if_neg (by simp [none, escape])] at head
  cases frames : s.frames with
  | nil =>
    rw [frames] at head
    obtain rfl := Option.some.inj head
    rfl
  | cons f below =>
    rw [frames] at head
    obtain ⟨l, found, rfl⟩ := Option.map_eq_some_iff.mp head
    exact Point.rank_of_loop? found _

theorem Further.trans (first : s.Further t) (second : t.Further u) : s.Further u := by
  unfold Further at *
  omega

/-- Bytes in front of the cursor weigh more than all steps that may be taken at one place. -/
def measure (s : Scan) : Nat :=
  8 * (s.cursor.text.utf8ByteSize - s.cursor.position.offset) + s.rank

/-- The scan of `text` may stand there. -/
def SoundFor (text : String) (s : Scan) : Prop :=
  s.cursor.text = text ∧ ∃ front rest, s.Sound front rest

theorem SoundFor.step (sound : s.SoundFor text) (steps : s.Steps t) :
    t.SoundFor text ∧ s.Further t ∧
      (0 < s.skips → s.cursor.position.offset < t.cursor.position.offset) := by
  obtain ⟨same, front, rest, sound⟩ := sound
  obtain ⟨o, step, advances⟩ := sound.step
  obtain rfl : o = .more t := Except.ok.inj (step.symm.trans steps)
  obtain ⟨text, sound, further, skips⟩ := advances
  exact ⟨⟨text.trans same, sound⟩, further, skips⟩

theorem between_start (text : String) :
    (start text).cursor.Between (leadingMark text).toList (Lexing.content text.toList).2 where
  text := by
    rw [String.ofList_append, String.ofList_toList, Lexing.leadingMark_append]
    rfl
  offset := by
    rw [← utf8ByteSize_ofList, String.ofList_toList]
    rfl

theorem soundFor_start (text : String) : (start text).SoundFor text := by
  exact ⟨rfl, _, _, between_start text, Nat.zero_le _, .none _, nofun,
    ⟨Nat.le_refl 1, Nat.le_add_left ..⟩, nofun⟩

theorem Reachable.soundFor (reachable : Reachable text s) : s.SoundFor text := by
  induction reachable with
  | refl => exact soundFor_start text
  | tail _ step ih => exact (ih.step step).1

theorem SoundFor.later (sound : s.SoundFor text) (later : Relation.TransGen Steps s t) :
    t.SoundFor text ∧ s.Further t := by
  induction later with
  | single step => exact ⟨(sound.step step).1, (sound.step step).2.1⟩
  | tail _ step ih => exact ⟨(ih.1.step step).1, ih.2.trans (ih.1.step step).2.1⟩

/-- Each step lowers the measure, so that a scan ends. -/
theorem SoundFor.measure_lt (sound : s.SoundFor text) (steps : s.Steps t) :
    t.measure < s.measure := by
  obtain ⟨⟨later, _, _, sound'⟩, further, _⟩ := sound.step steps
  have inside := sound'.between.boundary.le
  have rank := t.rank_lt
  unfold measure
  rw [later, sound.1]
  rw [later] at inside
  unfold Further at further
  omega

/-- Where a run ends, it does so in fewer steps than its start measures. -/
theorem run_of_runs {o : Outcome} (ends : t.step = .ok o) (last : ∀ u, o ≠ .more u)
    (runs : s.Runs t) (sound : s.SoundFor text) (enough : s.measure < n) : run n s = .ok o := by
  induction runs using Relation.ReflTransGen.head_induction_on generalizing n with
  | refl =>
    obtain ⟨n, rfl⟩ := Nat.exists_eq_succ_of_ne_zero (Nat.ne_zero_of_lt enough)
    rw [run, ends]
    cases o with
    | more u => exact absurd rfl (last u)
    | done | failed => rfl
  | head step _ ih =>
    obtain ⟨n, rfl⟩ := Nat.exists_eq_succ_of_ne_zero (Nat.ne_zero_of_lt enough)
    have less := sound.measure_lt step
    rw [run, step]
    exact ih (sound.step step).1 (by omega)

theorem position_start (text : String) :
    (start text).cursor.position = (Lexing.content text.toList).1 := by
  have offset := Lexing.offset_content text
  unfold start
  rw [← offset]
  unfold Lexing.content
  cases text.toList with
  | nil => rfl
  | cons c r => dsimp only; split <;> rfl

/-- Within a number of steps that the size of the text bounds, the scan gives its answer. -/
theorem run_start (text : String) :
    run (8 * text.utf8ByteSize + 8) (start text) = .ok (.of (lex text)) := by
  obtain ⟨t, runs, answer⟩ := ends (s := start text) (between_start text)
  have whole : (Segmentation.of (start text).lineStart (Lexing.content text.toList).2).answer
      (start text).cursor.position = lex text := by
    rw [position_start, lex_eq]
    rfl
  rw [whole] at answer
  have few : (start text).measure < 8 * text.utf8ByteSize + 8 := by
    have rank := (start text).rank_lt
    have size : (start text).cursor.text.utf8ByteSize = text.utf8ByteSize := rfl
    unfold measure
    omega
  have read : (lex text).map ((start text).lexemes.reverse ++ ·) = lex text := by
    cases lex text <;> rfl
  rw [read] at answer
  refine run_of_runs answer ?_ runs (soundFor_start text) few
  cases lex text <;> exact nofun

/-- Back at the head of a loop, the cursor is further on. -/
theorem offset_lt_of_loop? (reachable : Reachable text s) (later : Relation.TransGen Steps s t)
    (head : s.loop? ≠ none) (same : t.loop? = s.loop?) :
    s.cursor.position.offset < t.cursor.position.offset := by
  obtain ⟨l, head⟩ := Option.ne_none_iff_exists'.mp head
  obtain moved | ⟨stays, less⟩ := (reachable.soundFor.later later).2
  · exact moved
  -- At one place the rank goes down with each step, and the head of a loop has always the same.
  · rw [rank_of_loop? head, rank_of_loop? (same.trans head), stays] at less
    exact absurd less (Nat.lt_irrefl _)

/-- What holds where the scan of a text stands: it cuts the text between boundaries only, readers
start further on than those that called them, and the body of a string starts at a quote. -/
structure Safe (text : String) (s : Scan) : Prop where
  cuts : ∀ miscut, s.step ≠ .error miscut
  boundary : s.cursor.position.offset ≤ text.utf8ByteSize ∧
    Boundary text s.cursor.position.offset
  ahead : ∃ rest, s.cursor.remaining = .ok rest ∧ s.skips ≤ rest.toList.length
  skips : ∀ t, s.Steps t → 0 < s.skips → s.cursor.position.offset < t.cursor.position.offset
  calls : s.frames.Pairwise Frame.Within
  returns : ∀ kind p below, s.frames = ⟨.ended kind, p⟩ :: below → s.skips = 0 →
    p.offset < s.cursor.position.offset
  quote : ∀ verbatim interpolated p below,
    s.frames = ⟨.bodyOpening verbatim interpolated, p⟩ :: below → s.skips = 0 →
    ∃ behind, s.cursor.remaining = .ok (String.ofList ('"' :: behind))
  sigils : ∀ verbatim interpolated p below rest,
    s.frames = ⟨.sigils verbatim interpolated, p⟩ :: below → s.skips = 0 →
    s.cursor.remaining = .ok rest → rest.toList.head?.any isStringSigil = false →
    rest.toList.head? = some '"' ∧
      ∃ sigils, cut text p.offset s.cursor.position.offset = .ok (String.ofList sigils) ∧
        (∀ c ∈ sigils, isStringSigil c = true) ∧
        (2 ≤ sigils.count '$' → ∃ t, s.Steps t ∧ t.frames = ⟨.rawOpening, p⟩ :: below)
  counters : s.cursor.position.line + s.cursor.position.column ≤ text.utf8ByteSize + 2 ∧
    ∀ verbatim interpolated holes p, ⟨.body verbatim interpolated holes, p⟩ ∈ s.frames →
      holes ≤ text.utf8ByteSize

theorem Sound.reader (sound : s.Sound front rest) (frames : s.frames = f :: below)
    (none : s.skips = 0) :
    ∃ before since, front = before ++ since ∧ f.point.Fits since rest ∧
      f.start.offset = byteLength before := by
  have atWork := sound.now none
  rw [frames] at atWork
  obtain ⟨before, since, split, fits, start, _⟩ := atWork.exists_reader
  exact ⟨before, since, split, fits, start⟩

/-- At the end of the sigils of a string. -/
theorem Sound.sigils (sound : s.Sound front rest)
    (frames : s.frames = ⟨.sigils verbatim interpolated, p⟩ :: below) (none : s.skips = 0)
    (stop : rest.head?.any isStringSigil = false) :
    rest.head? = some '"' ∧
      ∃ sigils, cut s.cursor.text p.offset s.cursor.position.offset =
          .ok (String.ofList sigils) ∧
        (∀ c ∈ sigils, isStringSigil c = true) ∧
        (2 ≤ sigils.count '$' → ∃ t, s.Steps t ∧ t.frames = ⟨.rawOpening, p⟩ :: below) := by
  obtain ⟨before, since, rfl, ⟨all, ats, opens⟩, start⟩ := sound.reader frames none
  obtain ⟨opening, made⟩ := Point.exists_made all stop opens
  have quote := (head?_eq_quote rest).mpr (Nat.ne_of_gt made.ahead.2)
  have text := sound.between.cut
  rw [← start] at text
  refine ⟨quote, since, text, all, fun dollars => ?_⟩
  obtain ⟨noAt, many⟩ := not_or.mp (mt (Point.count_lt_of_made made) (Nat.not_lt_of_le dollars))
  have moves : (Point.sigils verbatim interpolated).moveAt rest = .pass 0 .rawOpening := by
    obtain ⟨behind, rfl⟩ := List.head?_eq_some_iff.mp quote
    rw [Point.moveAt, Point.moveWith, Point.moveInSigils, if_neg (by decide), if_pos]
    simp [mt ats.mp noAt, Nat.le_of_not_lt many]
  have escape : s.escape = false := by
    by_contra pending
    obtain ⟨f, _, same, escapes⟩ := sound.escape ((Bool.not_eq_false _).mp pending)
    obtain ⟨rfl, _⟩ := List.cons.inj (frames.symm.trans same)
    contradiction
  exact ⟨_, step_act sound.between none escape frames moves, rfl⟩

theorem Sound.step_ne_error (sound : s.Sound front rest) (miscut : Miscut) :
    s.step ≠ .error miscut := by
  obtain ⟨o, step, _⟩ := sound.step
  rw [step]
  exact nofun

theorem Sound.offset_lt_of_ended (sound : s.Sound front rest)
    (frames : s.frames = ⟨.ended kind, p⟩ :: below) (none : s.skips = 0) :
    p.offset < s.cursor.position.offset := by
  obtain ⟨before, since, rfl, read, start⟩ := sound.reader frames none
  have some := List.length_pos_iff.mpr read
  have size := length_le_byteLength since
  rw [sound.between.offset, byteLength_append]
  dsimp only at start
  omega

theorem Sound.exists_quote (sound : s.Sound front rest)
    (frames : s.frames = ⟨.bodyOpening verbatim interpolated, p⟩ :: below) (none : s.skips = 0) :
    ∃ behind, s.cursor.remaining = .ok (String.ofList ('"' :: behind)) := by
  obtain ⟨_, _, _, fits, _⟩ := sound.reader frames none
  obtain ⟨behind, rfl⟩ := List.head?_eq_some_iff.mp fits.1
  exact ⟨behind, sound.between.remaining⟩

theorem Sound.holes_le (sound : s.Sound front rest)
    (member : ⟨.body verbatim interpolated holes, p⟩ ∈ s.frames) :
    holes ≤ s.cursor.text.utf8ByteSize := by
  have bound := sound.atWork.holes_le p member
  rw [sound.between.text, utf8ByteSize_ofList, ← List.take_append_drop s.skips rest,
    ← List.append_assoc, byteLength_append (front ++ _)]
  exact Nat.le_add_right_of_le bound

/-- Wherever a scan comes to, it is safe. -/
theorem Reachable.safe (reachable : Reachable text s) : s.Safe text := by
  have soundFor := reachable.soundFor
  obtain ⟨rfl, front, rest, sound⟩ := id soundFor
  have remaining := sound.between.remaining
  have inside := sound.between.boundary
  exact
    { cuts := sound.step_ne_error
      boundary := ⟨inside.le, inside⟩
      ahead := ⟨_, remaining, by rw [String.toList_ofList]; exact sound.ahead⟩
      skips := fun t steps => (soundFor.step steps).2.2
      calls := sound.atWork.pairwise
      returns := fun _ _ _ => sound.offset_lt_of_ended
      quote := fun _ _ _ _ => sound.exists_quote
      sigils := by
        intro verbatim interpolated p below cs frames none found stop
        obtain rfl := Except.ok.inj (remaining.symm.trans found)
        rw [String.toList_ofList] at stop ⊢
        exact sound.sigils frames none stop
      counters := ⟨sound.bounded.2.trans (Nat.add_le_add_right inside.le 2),
        fun _ _ _ _ => sound.holes_le⟩ }

end Scan

theorem opensString_eq_true (opens : opensString ats dollars tail = true) :
    tail.head? = some '"' ∧ (2 ≤ dollars → ats = 0 ∧ 3 ≤ runLength (· = '"') tail) := by
  have raw : ['"', '"', '"'].isPrefixOf tail = _ := isPrefixOf_replicate 3 tail
  unfold opensString at opens
  rw [Bool.and_eq_true, decide_eq_true_eq] at opens
  obtain ⟨quote, opens⟩ := opens
  refine ⟨quote, fun many => ?_⟩
  obtain ⟨n, rfl⟩ := Nat.exists_eq_add_of_le' many
  match ats with
  | 0 => exact ⟨rfl, of_decide_eq_true (raw.symm.trans opens)⟩
  | 1 => contradiction
  | _ + 2 => contradiction

/-- The sigils at the head of a text, counted as characters, and the text behind them. -/
structure DividesSigils (rest : String) : Prop where
  answers : ∃ answer, atSigils rest = .ok answer
  boundary : Boundary rest (runLength isStringSigil rest.toList)
  ats : ∀ sigils, cut rest 0 (runLength isStringSigil rest.toList) = .ok sigils →
    sigils.toList.count '@' ≤ runLength isStringSigil rest.toList
  opened : atSigils rest = .ok true → ∃ sigils behind,
    cut rest 0 (runLength isStringSigil rest.toList) = .ok (String.ofList sigils) ∧
      cut rest (runLength isStringSigil rest.toList) rest.utf8ByteSize =
        .ok (String.ofList ('"' :: behind)) ∧
      (2 ≤ sigils.count '$' → '@' ∉ sigils ∧ 3 ≤ runLength (· = '"') ('"' :: behind))

theorem dividesSigils (rest : String) : DividesSigils rest where
  answers := ⟨_, atSigils_eq_ok rest⟩
  boundary := boundary_sigils rest
  ats := by
    intro sigils found
    obtain rfl := Except.ok.inj ((cut_sigils rest).symm.trans found)
    rw [String.toList_ofList]
    exact List.count_le_length
  opened := by
    intro opens
    obtain ⟨quote, raw⟩ :=
      opensString_eq_true (Except.ok.inj ((atSigils_eq_ok rest).symm.trans opens))
    obtain ⟨behind, found⟩ := List.head?_eq_some_iff.mp quote
    have back := cut_behind_sigils rest
    rw [found] at back raw
    exact ⟨_, behind, cut_sigils rest, back, fun dollars =>
      ⟨List.count_eq_zero.mp (raw dollars).1, (raw dollars).2⟩⟩

/-- Two dollars need three quotes. -/
example : atSigils "$$\"\"\"" = .ok true ∧ atSigils "$$\"\"" = .ok false := by decide

/-- The scan of a text ends, and it gets there without a false step. -/
structure ScansSafely (text : String) : Prop where
  ends : Scan.run (8 * text.utf8ByteSize + 8) (.start text) = .ok (.of (lex text))
  safe : ∀ s, Scan.Reachable text s → s.Safe text
  rounds : ∀ s t, Scan.Reachable text s → Relation.TransGen Scan.Steps s t → s.loop? ≠ none →
    t.loop? = s.loop? → s.cursor.position.offset < t.cursor.position.offset
  sigils : ∀ rest, DividesSigils rest

/-- Scans end with the lexemes of the text or with its error, and no cut fails on the way. -/
theorem scansSafely (text : String) : ScansSafely text where
  ends := Scan.run_start text
  safe _ reachable := reachable.safe
  rounds _ _ reachable later head same := Scan.offset_lt_of_loop? reachable later head same
  sigils := dividesSigils

end Highlight
