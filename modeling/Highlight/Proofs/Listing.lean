import Highlight.Listing
import Mathlib.Data.List.Forall2

/-! Listings are read back. A line feed ends each row and tabs divide its fields. No field can hold
either of them, whatever the text of its token, so a listing has one row for each token. -/
namespace Highlight.Listing

def isControl (c : Char) : Bool :=
  c = '\n' || c = '\r' || c = '\t'

/-- A field holds nothing that could end it or its row. -/
def IsField (cs : List Char) : Prop :=
  ∀ c ∈ cs, isControl c = false

instance (cs : List Char) : Decidable (IsField cs) :=
  List.decidableBAll (fun c => isControl c = false) cs

/-- `cs` with `image` in place of each `c`. -/
def replace (c : Char) (image cs : List Char) : List Char :=
  cs.flatMap fun d => if d = c then image else [d]

/-- The two numbers that a colon divides. -/
def numbers? (field : List Char) : Option (Nat × Nat) :=
  match field.splitOn ':' with
  | [line, column] => some (Nat.ofDigitChars 10 line 0, Nat.ofDigitChars 10 column 0)
  | _ => none

/-- What a reader finds in the row of a token. -/
structure Tells (t : Token) (row : List Char) : Prop where
  fields : row.splitOn '\t' =
    [Nat.toDigits 10 t.position.line ++ ':' :: Nat.toDigits 10 t.position.column,
      t.role.selector.toList,
      replace '\t' ['\\', 't'] (replace '\r' ['\\', 'r']
        (replace '\n' ['\\', 'n'] t.role.text.toList))]
  numbers : (row.splitOn '\t').head?.bind numbers? = some (t.position.line, t.position.column)

theorem IsField.append (first : IsField cs) (second : IsField ds) : IsField (cs ++ ds) :=
  List.forall_mem_append.mpr ⟨first, second⟩

theorem IsField.not_mem (field : IsField cs) (control : isControl c = true) : c ∉ cs := by
  intro member
  rw [field c member] at control
  contradiction

/-- Escapes leave nothing that could end a field. -/
theorem isField_escape (c : Char) : IsField (escape c) := by
  unfold escape
  split
  · decide
  · next noFeed =>
    split
    · decide
    · next noReturn =>
      split
      · decide
      · next noTab => simp [IsField, isControl, noFeed, noReturn, noTab]

theorem isField_flatMap_escape (cs : List Char) : IsField (cs.flatMap escape) := by
  intro d member
  obtain ⟨c, _, inside⟩ := List.mem_flatMap.mp member
  exact isField_escape c d inside

/-- The escapes can be put in place one after the other. -/
theorem flatMap_escape (cs : List Char) :
    cs.flatMap escape =
      replace '\t' ['\\', 't'] (replace '\r' ['\\', 'r'] (replace '\n' ['\\', 'n'] cs)) := by
  have single : ∀ c, escape c =
      replace '\t' ['\\', 't'] (replace '\r' ['\\', 'r'] (replace '\n' ['\\', 'n'] [c])) := by
    intro c
    by_cases feed : c = '\n'
    · subst feed
      rfl
    · by_cases ret : c = '\r'
      · subst ret
        rfl
      · simp [escape, replace, feed, ret]
  have split : ∀ (d : Char) (image front back : List Char),
      replace d image (front ++ back) = replace d image front ++ replace d image back :=
    fun _ _ _ _ => List.flatMap_append
  induction cs with
  | nil => rfl
  | cons c cs ih =>
    rw [← List.singleton_append, split, split, split, ← single, ← ih]
    rfl

theorem isDigit_of_mem_toDigits (member : c ∈ Nat.toDigits 10 n) : c.isDigit = true :=
  Nat.isDigit_of_mem_toDigits (by decide) (by decide) member

theorem isField_toDigits (n : Nat) : IsField (Nat.toDigits 10 n) := by
  intro c member
  have digit := isDigit_of_mem_toDigits member
  rw [Bool.eq_false_iff]
  intro control
  simp only [isControl, Bool.or_eq_true, decide_eq_true_eq] at control
  rcases control with (rfl | rfl) | rfl <;> exact absurd digit (by decide)

theorem colon_not_mem_toDigits (n : Nat) : ':' ∉ Nat.toDigits 10 n := fun member =>
  absurd (isDigit_of_mem_toDigits member) (by decide)

theorem isField_place (p : Position) : IsField (place p) :=
  (isField_toDigits p.line).append (List.forall_mem_cons.mpr ⟨rfl, isField_toDigits p.column⟩)

theorem numbers?_place (p : Position) : numbers? (place p) = some (p.line, p.column) := by
  have parts : (place p).splitOn ':' = [Nat.toDigits 10 p.line, Nat.toDigits 10 p.column] := by
    have joined : place p =
        [':'].intercalate [Nat.toDigits 10 p.line, Nat.toDigits 10 p.column] := by
      simp [place, List.intercalate, List.intersperse]
    rw [joined]
    refine List.splitOn_intercalate ':' ?_ (List.cons_ne_nil _ _)
    simp [colon_not_mem_toDigits]
  rw [numbers?, parts]
  simp only [Nat.ofDigitChars_ten_toDigits]

/-- The characters of a given text are checked without taking the text apart. -/
theorem isField_ofList (field : IsField cs) : IsField (String.ofList cs).toList := by
  rwa [String.toList_ofList]

theorem isField_join {first second : String} (left : IsField first.toList)
    (right : IsField second.toList) : IsField (first ++ second).toList := by
  rw [String.toList_append]
  exact left.append right

theorem isField_literalSelector (text : String) : IsField (literalSelector text).toList := by
  unfold literalSelector
  split <;> exact isField_ofList (by decide)

theorem isField_selector (r : Role) : IsField r.selector.toList := by
  have cs : IsField ".cs".toList := isField_ofList (by decide)
  have spelling : ∀ kind : DeclKind, IsField kind.spelling.toList := by
    intro kind
    cases kind <;> exact isField_ofList (by decide)
  cases r with
  | keyword k =>
    have word : IsField k.spelling.toList := by
      cases k with
      | declares kind => exact spelling kind
      | whereClause | newConstraint => exact isField_ofList (by decide)
    exact isField_join (isField_join (isField_ofList (by decide)) word) cs
  | name kind => exact isField_join (isField_join (isField_ofList (by decide)) (spelling kind)) cs
  | punctuation p => cases p <;> exact isField_ofList (by decide)
  | literal text => exact isField_literalSelector text
  | modifier | type | typeParameter | enumMember | identifier => exact isField_ofList (by decide)

def body (t : Token) : List Char :=
  place t.position ++ '\t' :: t.role.selector.toList ++ '\t' :: t.role.text.toList.flatMap escape

theorem row_eq (t : Token) : row t = body t ++ ['\n'] := rfl

/-- A row has three fields. -/
theorem splitOn_body (t : Token) :
    (body t).splitOn '\t' =
      [place t.position, t.role.selector.toList, t.role.text.toList.flatMap escape] := by
  have joined : body t = ['\t'].intercalate
      [place t.position, t.role.selector.toList, t.role.text.toList.flatMap escape] := by
    simp [body, List.intercalate, List.intersperse]
  rw [joined]
  refine List.splitOn_intercalate '\t' ?_ (List.cons_ne_nil _ _)
  simp only [List.forall_mem_cons]
  exact ⟨(isField_place _).not_mem rfl, (isField_selector _).not_mem rfl,
    (isField_flatMap_escape _).not_mem rfl, nofun⟩

theorem tells_body (t : Token) : Tells t (body t) := by
  constructor
  · rw [splitOn_body, flatMap_escape]
    rfl
  · rw [splitOn_body]
    exact numbers?_place t.position

theorem not_mem_body (t : Token) (control : isControl c = true) (noTab : c ≠ '\t') :
    c ∉ body t := by
  have other : ∀ {cs ds : List Char}, c ∉ cs → c ∉ ds → c ∉ cs ++ '\t' :: ds := by
    intro cs ds first second
    simp [first, second, noTab]
  exact other (other ((isField_place _).not_mem control) ((isField_selector _).not_mem control))
    ((isField_flatMap_escape _).not_mem control)

/-- Behind the last line feed nothing stands. -/
theorem splitOn_rows (ts : List Token) :
    (ts.flatMap row).splitOn '\n' = ts.map body ++ [[]] := by
  have joined : ts.flatMap row = ['\n'].intercalate (ts.map body ++ [[]]) := by
    induction ts with
    | nil => rfl
    | cons t ts ih =>
      rw [List.flatMap_cons, row_eq, ih, List.map_cons, List.cons_append,
        List.intercalate_cons_of_ne_nil (by simp)]
  rw [joined]
  refine List.splitOn_intercalate '\n' ?_ (by simp)
  simp only [List.forall_mem_append, List.forall_mem_map, List.forall_mem_singleton]
  exact ⟨fun t _ => not_mem_body t rfl (by decide), List.not_mem_nil⟩

theorem count_rows (ts : List Token) : (ts.flatMap row).count '\n' = ts.length := by
  induction ts with
  | nil => rfl
  | cons t ts ih =>
    have none : (body t).count '\n' = 0 :=
      List.count_eq_zero.mpr (not_mem_body t rfl (by decide))
    rw [List.flatMap_cons, row_eq, List.count_append, List.count_append, none, ih,
      List.length_cons]
    simp [Nat.add_comm]

theorem return_not_mem_rows (ts : List Token) : '\r' ∉ ts.flatMap row := by
  intro member
  obtain ⟨t, _, inside⟩ := List.mem_flatMap.mp member
  rw [row_eq, List.mem_append] at inside
  rcases inside with inside | last
  · exact not_mem_body t rfl (by decide) inside
  · exact absurd last (by decide)

end Highlight.Listing

namespace Highlight

/-- One line feed for each token and no carriage return. What the line feeds divide are the rows of
the tokens, in their order, and each row tells the three fields of its token. -/
theorem listing_rows (ts : List Token) :
    (listing ts).toList.count '\n' = ts.length ∧ '\r' ∉ (listing ts).toList ∧
      (∃ rows, (listing ts).toList.splitOn '\n' = rows ++ [[]] ∧
        List.Forall₂ Listing.Tells ts rows) ∧
      ∀ us, listing (ts ++ us) = listing ts ++ listing us := by
  have chars : (listing ts).toList = ts.flatMap Listing.row := String.toList_ofList
  rw [chars]
  refine ⟨Listing.count_rows ts, Listing.return_not_mem_rows ts,
    ⟨ts.map Listing.body, Listing.splitOn_rows ts, ?_⟩, fun us => ?_⟩
  · rw [List.forall₂_map_right_iff, List.forall₂_same]
    exact fun t _ => Listing.tells_body t
  · rw [listing, List.flatMap_append, String.ofList_append]
    rfl

end Highlight
