import Highlight.Proofs.Lexeme.Shapes
import Highlight.Proofs.Lexeme.Tiling

/-! A cursor that counts bytes, and pieces of a text between two bytes. Such a piece exists only
where both bytes are boundaries of characters: all other cuts fail. -/
namespace Highlight

/-- A cut that starts or stops inside of a character or behind the text, or stops before it
starts. -/
structure Miscut where
  start : Nat
  stop : Nat
deriving DecidableEq, Repr

/-- The byte is the first of a character or the end of the text. -/
def Boundary (text : String) (offset : Nat) : Prop :=
  String.Pos.Raw.IsValid text ⟨offset⟩

instance (text : String) (offset : Nat) : Decidable (Boundary text offset) :=
  inferInstanceAs (Decidable (String.Pos.Raw.IsValid text ⟨offset⟩))

/-- The characters of a text from one byte up to another. -/
def cut (text : String) (start stop : Nat) : Except Miscut String :=
  if boundaries : Boundary text start ∧ Boundary text stop ∧ start ≤ stop then
    .ok (text.extract (text.pos ⟨start⟩ boundaries.1) (text.pos ⟨stop⟩ boundaries.2.1))
  else .error ⟨start, stop⟩

/-- The sigils and the characters behind them open a string. -/
def opensString (ats dollars : Nat) (tail : List Char) : Bool :=
  tail.head? = some '"' && match ats, dollars with
    | 0, 1 | 1, 1 | 1, 0 => true
    | 0, _ => ['"', '"', '"'].isPrefixOf tail
    | _, _ => false

/-- A string with sigils starts here. The sigils are counted as characters, and the text is split
behind as many bytes. -/
def atSigils (rest : String) : Except Miscut Bool := do
  let count := runLength isStringSigil rest.toList
  let sigils ← cut rest 0 count
  let tail ← cut rest count rest.utf8ByteSize
  let ats := sigils.toList.count '@'
  return opensString ats (count - ats) tail.toList

/-- Where it is not asked, the text is not looked at. -/
def atSigilsIf (asked : Bool) (rest : String) : Except Miscut Bool :=
  if asked then atSigils rest else .ok false

structure Cursor where
  text : String
  position : Position
deriving DecidableEq, Repr

namespace Cursor

def remaining (k : Cursor) : Except Miscut String :=
  cut k.text k.position.offset k.text.utf8ByteSize

/-- One character further. At the end of the text the cursor stays. -/
def advance (k : Cursor) : Except Miscut Cursor := do
  let rest ← k.remaining
  match rest.toList.head? with
  | some c => return { k with position := k.position.next c }
  | none => return k

def after (k : Cursor) (cs : List Char) : Cursor :=
  { k with position := k.position.after cs }

def newLine (k : Cursor) : Cursor :=
  { k with position := ⟨k.position.line + 1, 1, k.position.offset⟩ }

end Cursor

variable {text : String} {front body rest : List Char}

/-- A boundary divides a text into two. -/
theorem boundary_iff {offset : Nat} :
    Boundary text offset ↔ ∃ front rest, text = String.ofList (front ++ rest) ∧
      offset = byteLength front := by
  unfold Boundary
  rw [String.Pos.Raw.isValid_iff_exists_append]
  constructor
  · rintro ⟨a, b, rfl, same⟩
    refine ⟨a.toList, b.toList, ?_, ?_⟩
    · rw [String.ofList_append, String.ofList_toList, String.ofList_toList]
    · rw [← utf8ByteSize_ofList, String.ofList_toList]
      exact congrArg String.Pos.Raw.byteIdx same
  · rintro ⟨front, rest, rfl, rfl⟩
    refine ⟨String.ofList front, String.ofList rest, String.ofList_append, ?_⟩
    rw [← utf8ByteSize_ofList]
    rfl

theorem boundary_front (front rest : List Char) :
    Boundary (String.ofList (front ++ rest)) (byteLength front) :=
  boundary_iff.mpr ⟨front, rest, rfl, rfl⟩

theorem Boundary.le (boundary : Boundary text offset) : offset ≤ text.utf8ByteSize := by
  obtain ⟨front, rest, rfl, rfl⟩ := boundary_iff.mp boundary
  rw [utf8ByteSize_ofList, byteLength_append]
  exact Nat.le_add_right ..

theorem cut_middle (front body rest : List Char) :
    cut (String.ofList (front ++ (body ++ rest))) (byteLength front)
      (byteLength front + byteLength body) = .ok (String.ofList body) := by
  have start := boundary_front front (body ++ rest)
  have stop : Boundary (String.ofList (front ++ (body ++ rest)))
      (byteLength front + byteLength body) := by
    have joined := boundary_front (front ++ body) rest
    rwa [byteLength_append, List.append_assoc] at joined
  rw [cut, dif_pos ⟨start, stop, Nat.le_add_right ..⟩]
  refine congrArg Except.ok (String.toByteArray_inj.mp ?_)
  have bytes := extract_middle (String.ofList front) (String.ofList body) (String.ofList rest)
  rw [← String.ofList_append, ← String.ofList_append, utf8ByteSize_ofList, utf8ByteSize_ofList]
    at bytes
  exact bytes

theorem cut_back (front rest : List Char) :
    cut (String.ofList (front ++ rest)) (byteLength front)
      (String.ofList (front ++ rest)).utf8ByteSize = .ok (String.ofList rest) := by
  have whole := cut_middle front rest []
  rwa [List.append_nil, ← byteLength_append, ← utf8ByteSize_ofList (front ++ rest)] at whole

theorem cut_front (front rest : List Char) :
    cut (String.ofList (front ++ rest)) 0 (byteLength front) = .ok (String.ofList front) := by
  have whole := cut_middle [] front rest
  rwa [List.nil_append, byteLength, Nat.zero_add] at whole

theorem byteLength_sigils {sigils : List Char} (all : ∀ c ∈ sigils, isStringSigil c = true) :
    byteLength sigils = sigils.length := by
  induction sigils with
  | nil => rfl
  | cons c sigils ih =>
    have size : c.utf8Size = 1 := by
      have sigil := all c List.mem_cons_self
      simp only [isStringSigil, Bool.or_eq_true, decide_eq_true_eq] at sigil
      rcases sigil with rfl | rfl <;> rfl
    rw [byteLength, size, ih fun d member => all d (List.mem_cons_of_mem c member),
      List.length_cons, Nat.add_comm]

theorem count_sigils {sigils : List Char} (all : ∀ c ∈ sigils, isStringSigil c = true) :
    sigils.length - sigils.count '@' = sigils.count '$' := by
  have sum : sigils.count '@' + sigils.count '$' = sigils.length := by
    induction sigils with
    | nil => rfl
    | cons c sigils ih =>
      have sum := ih fun d member => all d (List.mem_cons_of_mem c member)
      have sigil := all c List.mem_cons_self
      simp only [isStringSigil, Bool.or_eq_true, decide_eq_true_eq] at sigil
      rcases sigil with rfl | rfl <;> simp <;> omega
  omega

theorem runLength_le (p : Char → Bool) (cs : List Char) : runLength p cs ≤ cs.length :=
  (List.takeWhile_sublist p).length_le

theorem isPrefixOf_replicate (n : Nat) (cs : List Char) :
    (List.replicate n '"').isPrefixOf cs = decide (n ≤ runLength (· = '"') cs) := by
  induction n generalizing cs with
  | zero => simp
  | succ n ih =>
    cases cs with
    | nil => simp [List.replicate_succ, runLength]
    | cons c cs =>
      rw [List.replicate_succ, List.isPrefixOf_cons_cons, ih, runLength_cons]
      by_cases quote : c = '"'
      · simp [quote]
      · simp [quote, Ne.symm quote]

section

variable (rest : String)

theorem ofList_sigils :
    String.ofList (rest.toList.takeWhile isStringSigil ++ rest.toList.dropWhile isStringSigil) =
      rest := by
  rw [List.takeWhile_append_dropWhile, String.ofList_toList]

theorem byteLength_takeWhile_sigils (cs : List Char) :
    byteLength (cs.takeWhile isStringSigil) = runLength isStringSigil cs :=
  byteLength_sigils (List.all_eq_true.mp List.all_takeWhile)

/-- The sigils take one byte each, so that the text can be split behind them. -/
theorem boundary_sigils : Boundary rest (runLength isStringSigil rest.toList) := by
  have boundary := boundary_front (rest.toList.takeWhile isStringSigil)
    (rest.toList.dropWhile isStringSigil)
  rwa [ofList_sigils, byteLength_takeWhile_sigils] at boundary

theorem cut_sigils :
    cut rest 0 (runLength isStringSigil rest.toList) =
      .ok (String.ofList (rest.toList.takeWhile isStringSigil)) := by
  have front := cut_front (rest.toList.takeWhile isStringSigil)
    (rest.toList.dropWhile isStringSigil)
  rwa [ofList_sigils, byteLength_takeWhile_sigils] at front

theorem cut_behind_sigils :
    cut rest (runLength isStringSigil rest.toList) rest.utf8ByteSize =
      .ok (String.ofList (rest.toList.dropWhile isStringSigil)) := by
  have back := cut_back (rest.toList.takeWhile isStringSigil)
    (rest.toList.dropWhile isStringSigil)
  rwa [ofList_sigils, byteLength_takeWhile_sigils] at back

theorem atSigils_eq_ok :
    atSigils rest = .ok (opensString ((rest.toList.takeWhile isStringSigil).count '@')
      ((rest.toList.takeWhile isStringSigil).count '$') (rest.toList.dropWhile isStringSigil)) := by
  rw [← count_sigils (List.all_eq_true.mp List.all_takeWhile)]
  simp only [atSigils, cut_sigils, cut_behind_sigils, bind, Except.bind, pure, Except.pure,
    String.toList_ofList]
  rfl

end

theorem head?_eq_quote (tail : List Char) :
    tail.head? = some '"' ↔ runLength (· = '"') tail ≠ 0 := by
  cases tail with
  | nil => simp [runLength]
  | cons c tail => by_cases quote : c = '"' <;> simp [runLength_cons, quote]

/-- Counting sigils tells whether they open a string. -/
theorem isSome_of? (sigil : isStringSigil c = true) :
    (Opening.of? (c :: r)).isSome =
      opensString (((c :: r).takeWhile isStringSigil).count '@')
        (((c :: r).takeWhile isStringSigil).count '$') ((c :: r).dropWhile isStringSigil) := by
  have some : ((c :: r).takeWhile isStringSigil).count '@' +
      ((c :: r).takeWhile isStringSigil).count '$' ≠ 0 := by
    rw [List.takeWhile_cons_of_pos sigil]
    simp only [isStringSigil, Bool.or_eq_true, decide_eq_true_eq] at sigil
    rcases sigil with rfl | rfl <;> simp
  have raw : ['"', '"', '"'].isPrefixOf ((c :: r).dropWhile isStringSigil) = _ :=
    isPrefixOf_replicate 3 _
  unfold Opening.of? opensString
  simp only [head?_eq_quote, raw]
  generalize (c :: r).takeWhile isStringSigil = sigils at some ⊢
  generalize runLength (· = '"') ((c :: r).dropWhile isStringSigil) = quotes
  generalize sigils.count '@' = ats, sigils.count '$' = dollars at some ⊢
  by_cases none : quotes = 0
  · simp [none]
  rw [if_neg none]
  rcases ats with _ | _ | ats <;> rcases dollars with _ | _ | dollars <;>
    by_cases many : 3 ≤ quotes <;> simp [none, many] at some ⊢

theorem atSigils_eq (sigil : isStringSigil c = true) :
    atSigils (String.ofList (c :: r)) = .ok (Opening.of? (c :: r)).isSome := by
  rw [atSigils_eq_ok, String.toList_ofList, isSome_of? sigil]

theorem atSigilsIf_eq {asked : Bool} {cs : List Char}
    (asks : asked = true → cs.head?.any isStringSigil = true) :
    atSigilsIf asked (String.ofList cs) = .ok (asked && (Opening.of? cs).isSome) := by
  cases asked with
  | false => rfl
  | true =>
    obtain ⟨c, head, sigil⟩ := (Option.any_eq_true ..).mp (asks rfl)
    obtain ⟨r, rfl⟩ := List.head?_eq_some_iff.mp head
    exact atSigils_eq sigil

theorem atSigilsIf_cons (c : Char) (r : List Char) :
    atSigilsIf (isStringSigil c) (String.ofList (c :: r)) =
      .ok (isStringSigil c && (Opening.of? (c :: r)).isSome) :=
  atSigilsIf_eq id

namespace Cursor

/-- The cursor has `front` behind it and `rest` in front of it. -/
structure Between (k : Cursor) (front rest : List Char) : Prop where
  text : k.text = String.ofList (front ++ rest)
  offset : k.position.offset = byteLength front

variable {k : Cursor}

@[simp] theorem after_nil (k : Cursor) : k.after [] = k := rfl

theorem after_append (k : Cursor) (cs ds : List Char) :
    k.after (cs ++ ds) = (k.after cs).after ds := by
  simp only [after, Position.after_append]

theorem Between.remaining (between : k.Between front rest) :
    k.remaining = .ok (String.ofList rest) := by
  rw [Cursor.remaining, between.text, between.offset, cut_back]

theorem Between.boundary (between : k.Between front rest) : Boundary k.text k.position.offset := by
  rw [between.text, between.offset]
  exact boundary_front front rest

theorem Between.after (between : k.Between front (body ++ rest)) :
    (k.after body).Between (front ++ body) rest where
  text := by rw [List.append_assoc]; exact between.text
  offset := by rw [Cursor.after, Position.offset_after, between.offset, byteLength_append]

theorem Between.drop (between : k.Between front rest) (n : Nat) :
    (k.after (rest.take n)).Between (front ++ rest.take n) (rest.drop n) := by
  rw [← List.take_append_drop n rest] at between
  exact between.after

theorem Between.next (between : k.Between front (c :: rest)) :
    (k.after [c]).Between (front ++ [c]) rest :=
  between.after

theorem Between.advance (between : k.Between front (c :: rest)) :
    k.advance = .ok (k.after [c]) := by
  simp only [Cursor.advance, between.remaining, bind, Except.bind, pure, Except.pure,
    String.toList_ofList, List.head?_cons]
  rfl

theorem Between.cut {before : List Char} (between : k.Between (before ++ body) rest) :
    cut k.text (byteLength before) k.position.offset = .ok (String.ofList body) := by
  rw [between.text, between.offset, byteLength_append, List.append_assoc, cut_middle]

end Cursor
end Highlight
