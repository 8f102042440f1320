import Highlight.Json.Reader
import Highlight.Json.Text
import Mathlib.Data.List.Basic

/-! Reading JSON text gives back the value that was written, on one line or indented. Blanks in
front of a value are skipped, so each reader is described by what stands behind them. -/
namespace Highlight.Json

/-- The ways to write a character of a string. -/
inductive Escaped (c : Char) : List Char → Prop
  | short (other : e ≠ 'u') (named : unescape? e = some c) : Escaped c ['\\', e]
  | control (small : c.toNat < 0x20) :
      Escaped c ['\\', 'u', '0', '0', Nat.digitChar (c.toNat / 16), Nat.digitChar (c.toNat % 16)]
  | plain (quote : c ≠ '"') (backslash : c ≠ '\\') (large : 0x20 ≤ c.toNat) : Escaped c [c]

/-- The writer escapes as a reader expects. -/
theorem escaped_escape (c : Char) : Escaped c (escape c) := by
  unfold escape
  iterate 7
    split
    · next same =>
      subst same
      exact .short (by decide) rfl
  split
  · next small => exact .control small
  · next quote backslash _ _ _ _ _ large => exact .plain quote backslash (Nat.not_lt.mp large)

theorem hexDigit?_digitChar : ∀ d < 0x10, hexDigit? (Nat.digitChar d) = some d := by
  decide

theorem codeUnit?_digitChar {c : Char} (small : c.toNat < 0x20) :
    codeUnit? '0' '0' (Nat.digitChar (c.toNat / 16)) (Nat.digitChar (c.toNat % 16)) = some c := by
  have high := hexDigit?_digitChar (c.toNat / 16) (by omega)
  have low := hexDigit?_digitChar (c.toNat % 16) (by omega)
  have zero : hexDigit? '0' = some 0 := hexDigit?_digitChar 0 (by omega)
  have whole : 0x10 * (c.toNat / 16) + c.toNat % 16 = c.toNat := Nat.div_add_mod _ _
  have scalar : ¬(0xD800 ≤ c.toNat ∧ c.toNat < 0xE000) := by omega
  simp [codeUnit?, high, low, zero, whole, scalar]

/-- No character of a string is mistaken for the quote that closes it. -/
theorem stringChars?_of_escaped (escaped : Escaped c written)
    (read : stringChars? rest = some (cs, rest')) :
    stringChars? (written ++ rest) = some (c :: cs, rest') := by
  cases escaped with
  | short other named => simp [stringChars?, other, named, read]
  | control small => simp [stringChars?, codeUnit?_digitChar small, read]
  | plain quote backslash large =>
    simp [stringChars?, backslash, Nat.not_lt.mpr large, read]

/-- The characters of a string are read back from their escapes. -/
theorem stringChars?_flatMap_escape (cs rest : List Char) :
    stringChars? (cs.flatMap escape ++ '"' :: rest) = some (cs, rest) := by
  induction cs with
  | nil => simp [stringChars?]
  | cons c cs ih =>
    rw [List.flatMap_cons, List.append_assoc]
    exact stringChars?_of_escaped (escaped_escape c) ih

/-- No digit comes next, so a number ends here. -/
def EndsNumber (rest : List Char) : Prop :=
  rest.takeWhile Char.isDigit = []

theorem exists_digit (n : Nat) : ∃ d ds, Nat.toDigits 10 n = d :: ds ∧ d.isDigit = true := by
  cases digits : Nat.toDigits 10 n with
  | nil => exact absurd digits Nat.toDigits_ne_nil
  | cons d ds =>
    have member : d ∈ Nat.toDigits 10 n := digits ▸ List.mem_cons_self
    exact ⟨d, ds, rfl, Nat.isDigit_of_mem_toDigits (by decide) (by decide) member⟩

theorem head?_toDigits_ne_zero (n : Nat) (positive : 0 < n) :
    (Nat.toDigits 10 n).head? ≠ some '0' := by
  have digit : ∀ d < 10, 0 < d → Nat.digitChar d ≠ '0' := by decide
  induction n using Nat.strongRecOn with
  | ind n ih =>
    rcases Nat.lt_or_ge n 10 with small | large
    · rw [Nat.toDigits_of_lt_base small]
      exact fun same => digit n small positive (Option.some.inj same)
    · rw [Nat.toDigits_of_base_le (by decide) large,
        List.head?_append_of_ne_nil _ Nat.toDigits_ne_nil]
      exact ih (n / 10) (by omega) (by omega)

/-- Only zero is written with a leading zero. -/
theorem toDigits_ne_zero_cons (n : Nat) (d : Char) (ds : List Char) :
    Nat.toDigits 10 n ≠ '0' :: d :: ds := by
  intro same
  rcases Nat.eq_zero_or_pos n with rfl | positive
  · rw [Nat.toDigits_zero] at same
    simp at same
  · exact head?_toDigits_ne_zero n positive (congrArg List.head? same)

/-- Decimal digits are read back as their number. -/
theorem number?_toDigits (n : Nat) (ends : EndsNumber rest) :
    number? (Nat.toDigits 10 n ++ rest) = some (n, rest) := by
  have digits : ∀ d ∈ Nat.toDigits 10 n, d.isDigit = true := fun d member =>
    Nat.isDigit_of_mem_toDigits (by decide) (by decide) member
  have taken : (Nat.toDigits 10 n ++ rest).takeWhile Char.isDigit = Nat.toDigits 10 n := by
    rw [List.takeWhile_append_of_pos digits, ends, List.append_nil]
  have left : (Nat.toDigits 10 n ++ rest).dropWhile Char.isDigit = rest := by
    have whole := List.takeWhile_append_dropWhile (p := Char.isDigit) (l := rest)
    rw [ends, List.nil_append] at whole
    rw [List.dropWhile_append_of_pos digits, whole]
  unfold number?
  rw [taken, left]
  split
  · next empty => exact absurd empty Nat.toDigits_ne_nil
  · next zero => exact absurd zero (toDigits_ne_zero_cons n _ _)
  · rw [Nat.ofDigitChars_toDigits (by decide) (by decide)]

/-- A character that a value may begin with. -/
def BeginsValue (c : Char) : Prop :=
  c = '"' ∨ c = '[' ∨ c = '{' ∨ c.isDigit = true

theorem exists_beginsValue (level : Option Nat) (x : Json) :
    ∃ c cs, chars level x = c :: cs ∧ BeginsValue c := by
  cases x with
  | str text => exact ⟨'"', _, rfl, .inl rfl⟩
  | num n =>
    obtain ⟨d, ds, text, digit⟩ := exists_digit n
    exact ⟨d, ds, by rw [chars, text], .inr (.inr (.inr digit))⟩
  | arr items =>
    cases items with
    | nil => exact ⟨'[', [']'], by rw [chars], .inr (.inl rfl)⟩
    | cons x xs => exact ⟨'[', _, by rw [chars]; rfl, .inr (.inl rfl)⟩
  | obj members =>
    cases members with
    | nil => exact ⟨'{', ['}'], by rw [chars], .inr (.inr (.inl rfl))⟩
    | cons m ms => exact ⟨'{', _, by rw [chars]; rfl, .inr (.inr (.inl rfl))⟩

theorem BeginsValue.not_blank (begins : BeginsValue c) :
    (c = ' ' || c = '\t' || c = '\n' || c = '\r') = false := by
  rcases begins with rfl | rfl | rfl | digit
  · rfl
  · rfl
  · rfl
  · refine Bool.eq_false_iff.mpr fun blank => ?_
    simp only [Bool.or_eq_true, decide_eq_true_eq] at blank
    rcases blank with ((rfl | rfl) | rfl) | rfl <;> contradiction

/-- The reader skips what the writer puts between tokens. -/
@[simp] theorem skipBlanks_newline (level : Option Nat) (cs : List Char) :
    skipBlanks (newline level ++ cs) = skipBlanks cs := by
  cases level with
  | none => rfl
  | some level =>
    have blanks : ∀ n, skipBlanks (List.replicate n ' ' ++ cs) = skipBlanks cs := by
      intro n
      induction n with
      | zero => rfl
      | succ n ih => exact ih
    exact blanks (2 * level)

@[simp] theorem skipBlanks_chars (level : Option Nat) (x : Json) (rest : List Char) :
    skipBlanks (chars level x ++ rest) = chars level x ++ rest := by
  obtain ⟨c, cs, text, begins⟩ := exists_beginsValue level x
  rw [text, List.cons_append, skipBlanks, List.dropWhile_cons_of_neg]
  rw [begins.not_blank]
  exact Bool.false_ne_true

theorem skipBlanks_colon (level : Option Nat) (cs : List Char) :
    ∃ r, skipBlanks (colon level ++ cs) = ':' :: r ∧ skipBlanks r = skipBlanks cs := by
  cases level with
  | none => exact ⟨cs, rfl, rfl⟩
  | some level => exact ⟨' ' :: cs, rfl, rfl⟩

theorem chars_append_ne (level : Option Nat) (x : Json) (rest r : List Char) :
    chars level x ++ rest ≠ ']' :: r := by
  obtain ⟨c, cs, text, begins⟩ := exists_beginsValue level x
  intro same
  rw [text] at same
  obtain rfl := (List.cons.inj same).1
  rcases begins with same | same | same | digit <;> contradiction

/-! What the readers do in front of each kind of character. -/

theorem value?_str (head : skipBlanks cs = '"' :: r) (read : stringChars? r = some (text, rest)) :
    value? (fuel + 1) cs = some (.str (String.ofList text), rest) := by
  simp [value?, head, read]

theorem value?_num (head : skipBlanks cs = d :: ds) (digit : d.isDigit = true)
    (read : number? (d :: ds) = some (n, rest)) :
    value? (fuel + 1) cs = some (.num n, rest) := by
  have quote : d ≠ '"' := by rintro rfl; contradiction
  have bracket : d ≠ '[' := by rintro rfl; contradiction
  have brace : d ≠ '{' := by rintro rfl; contradiction
  simp [value?, head, quote, bracket, brace, read]

theorem value?_arr_nil (head : skipBlanks cs = '[' :: r) (close : skipBlanks r = ']' :: rest) :
    value? (fuel + 1) cs = some (.arr [], rest) := by
  simp [value?, head, close]

theorem value?_arr (head : skipBlanks cs = '[' :: r) (other : ∀ r', skipBlanks r ≠ ']' :: r')
    (read : items? fuel (skipBlanks r) = some (items, rest)) :
    value? (fuel + 1) cs = some (.arr items, rest) := by
  simp [value?, head, read]

theorem value?_obj_nil (head : skipBlanks cs = '{' :: r) (close : skipBlanks r = '}' :: rest) :
    value? (fuel + 1) cs = some (.obj [], rest) := by
  simp [value?, head, close]

theorem value?_obj (head : skipBlanks cs = '{' :: r) (other : ∀ r', skipBlanks r ≠ '}' :: r')
    (read : members? fuel (skipBlanks r) = some (members, rest)) :
    value? (fuel + 1) cs = some (.obj members, rest) := by
  simp [value?, head, read]

theorem items?_last (read : value? fuel cs = some (x, r)) (close : skipBlanks r = ']' :: rest) :
    items? (fuel + 1) cs = some ([x], rest) := by
  simp [items?, read, close]

theorem items?_next (read : value? fuel cs = some (x, r)) (comma : skipBlanks r = ',' :: r')
    (others : items? fuel r' = some (xs, rest)) :
    items? (fuel + 1) cs = some (x :: xs, rest) := by
  simp [items?, read, comma, others]

section

variable (head : skipBlanks cs = '"' :: afterQuote)
  (name : stringChars? afterQuote = some (text, afterName))
  (colon : skipBlanks afterName = ':' :: afterColon)
  (read : value? fuel afterColon = some (x, afterValue))

include head name colon read

theorem members?_last (close : skipBlanks afterValue = '}' :: rest) :
    members? (fuel + 1) cs = some ([(String.ofList text, x)], rest) := by
  simp [members?, head, name, colon, read, close]

theorem members?_next (comma : skipBlanks afterValue = ',' :: r)
    (others : members? fuel r = some (ms, rest)) :
    members? (fuel + 1) cs = some ((String.ofList text, x) :: ms, rest) := by
  simp [members?, head, name, colon, read, comma, others]

end

theorem itemChars_cons_append (level : Option Nat) (x : Json) (xs : List Json) (rest : List Char) :
    itemChars level (x :: xs) ++ rest =
      ',' :: (newline level ++ (chars level x ++ (itemChars level xs ++ rest))) := by
  simp only [itemChars, List.cons_append, List.append_assoc]

theorem memberChars_cons_append (level : Option Nat) (name : String) (x : Json)
    (ms : List (String × Json)) (rest : List Char) :
    memberChars level ((name, x) :: ms) ++ rest =
      ',' :: (newline level ++
        (quote name ++ (colon level ++ (chars level x ++ (memberChars level ms ++ rest))))) := by
  simp only [memberChars, List.cons_append, List.append_assoc]

/-- The end of an array or an object ends a number in front of it. -/
theorem endsNumber_newline (level : Option Nat) (other : c.isDigit = false) :
    EndsNumber (newline level ++ c :: rest) := by
  cases level with
  | none => simp [EndsNumber, newline, other]
  | some level => rfl

theorem endsNumber_itemChars (level : Option Nat) (xs : List Json) (ends : EndsNumber rest) :
    EndsNumber (itemChars level xs ++ rest) := by
  cases xs with
  | nil => rwa [itemChars, List.nil_append]
  | cons x xs => rw [itemChars_cons_append]; rfl

theorem endsNumber_memberChars (level : Option Nat) (ms : List (String × Json))
    (ends : EndsNumber rest) : EndsNumber (memberChars level ms ++ rest) := by
  cases ms with
  | nil => rwa [memberChars, List.nil_append]
  | cons m ms => rw [memberChars_cons_append]; rfl

/-- A value is read, with more fuel than its text is long. -/
def ReadsValue (level : Option Nat) (x : Json) : Prop :=
  ∀ cs rest fuel, skipBlanks cs = chars level x ++ rest → (chars level x).length < fuel →
    EndsNumber rest → value? fuel cs = some (x, rest)

def ReadsItems (level : Option Nat) (xs : List Json) : Prop :=
  ∀ x, ReadsValue level x → ∀ outer cs rest fuel,
    skipBlanks cs = chars level x ++ (itemChars level xs ++ (newline outer ++ ']' :: rest)) →
    (chars level x).length + (itemChars level xs).length + 1 < fuel →
    items? fuel cs = some (x :: xs, rest)

def ReadsMembers (level : Option Nat) (ms : List (String × Json)) : Prop :=
  ∀ name x, ReadsValue level x → ∀ outer cs rest fuel,
    skipBlanks cs = quote name ++
      (colon level ++ (chars level x ++ (memberChars level ms ++ (newline outer ++ '}' :: rest)))) →
    (chars level x).length + (memberChars level ms).length + 1 < fuel →
    members? fuel cs = some ((name, x) :: ms, rest)

theorem exists_fuel {length fuel : Nat} (enough : length < fuel) : ∃ n, fuel = n + 1 :=
  ⟨fuel - 1, by omega⟩

variable {level : Option Nat}

theorem readsValue_str (text : String) : ReadsValue level (.str text) := by
  intro cs rest fuel head enough _
  obtain ⟨fuel, rfl⟩ := exists_fuel enough
  simp only [chars, quote, List.append_assoc, List.cons_append, List.nil_append] at head
  rw [value?_str head (stringChars?_flatMap_escape text.toList rest), String.ofList_toList]

theorem readsValue_num (n : Nat) : ReadsValue level (.num n) := by
  intro cs rest fuel head enough ends
  obtain ⟨fuel, rfl⟩ := exists_fuel enough
  obtain ⟨d, ds, text, digit⟩ := exists_digit n
  have read := number?_toDigits n ends
  rw [chars, text, List.cons_append] at head
  rw [text, List.cons_append] at read
  exact value?_num head digit read

theorem readsValue_arr_nil : ReadsValue level (.arr []) := by
  intro cs rest fuel head enough _
  obtain ⟨fuel, rfl⟩ := exists_fuel enough
  rw [chars] at head
  exact value?_arr_nil head rfl

theorem readsValue_arr (first : ReadsValue (level.map (· + 1)) x)
    (others : ReadsItems (level.map (· + 1)) xs) : ReadsValue level (.arr (x :: xs)) := by
  intro cs rest fuel head enough _
  obtain ⟨fuel, rfl⟩ := exists_fuel enough
  simp only [chars, List.cons_append, List.append_assoc, List.nil_append] at head
  simp only [chars, List.length_append, List.length_cons, List.length_nil] at enough
  refine value?_arr head ?_ (others x first level _ rest fuel ?_ (by omega))
  · rw [skipBlanks_newline, skipBlanks_chars]
    exact chars_append_ne _ x _
  · rw [skipBlanks_newline, skipBlanks_chars, skipBlanks_chars]

theorem readsValue_obj_nil : ReadsValue level (.obj []) := by
  intro cs rest fuel head enough _
  obtain ⟨fuel, rfl⟩ := exists_fuel enough
  rw [chars] at head
  exact value?_obj_nil head rfl

theorem readsValue_obj (first : ReadsValue (level.map (· + 1)) x)
    (others : ReadsMembers (level.map (· + 1)) ms) :
    ReadsValue level (.obj ((name, x) :: ms)) := by
  intro cs rest fuel head enough _
  obtain ⟨fuel, rfl⟩ := exists_fuel enough
  simp only [chars, List.cons_append, List.append_assoc, List.nil_append] at head
  simp only [chars, List.length_append, List.length_cons, List.length_nil] at enough
  refine value?_obj head ?_ (others name x first level _ rest fuel ?_ (by omega))
  · rw [skipBlanks_newline]
    nofun
  · rw [skipBlanks_newline]
    rfl

theorem readsItems_nil : ReadsItems level [] := by
  intro x first outer cs rest fuel head enough
  obtain ⟨fuel, rfl⟩ := exists_fuel enough
  have read := first _ _ fuel head (by omega)
    (endsNumber_itemChars level [] (endsNumber_newline outer rfl))
  refine items?_last read ?_
  rw [itemChars, List.nil_append, skipBlanks_newline]
  rfl

theorem readsItems_cons (next : ReadsValue level y) (others : ReadsItems level ys) :
    ReadsItems level (y :: ys) := by
  intro x first outer cs rest fuel head enough
  obtain ⟨fuel, rfl⟩ := exists_fuel enough
  have read := first _ _ fuel head (by omega)
    (endsNumber_itemChars level (y :: ys) (endsNumber_newline outer rfl))
  simp only [itemChars, List.length_append, List.length_cons] at enough
  rw [itemChars_cons_append] at read
  refine items?_next read rfl (others y next outer _ rest fuel ?_ (by omega))
  rw [skipBlanks_newline, skipBlanks_chars]

/-- The name of the first member, the colon and the value are read. -/
theorem exists_member (first : ReadsValue level x) (enough : (chars level x).length < fuel)
    (ends : EndsNumber rest)
    (head : skipBlanks cs = quote name ++ (colon level ++ (chars level x ++ rest))) :
    ∃ afterQuote afterName afterColon, skipBlanks cs = '"' :: afterQuote ∧
      stringChars? afterQuote = some (name.toList, afterName) ∧
      skipBlanks afterName = ':' :: afterColon ∧ value? fuel afterColon = some (x, rest) := by
  obtain ⟨r, mark, value⟩ := skipBlanks_colon level (chars level x ++ rest)
  rw [skipBlanks_chars] at value
  simp only [quote, List.append_assoc, List.cons_append, List.nil_append] at head
  exact ⟨_, _, r, head, stringChars?_flatMap_escape _ _, mark, first _ _ fuel value enough ends⟩

theorem readsMembers_nil : ReadsMembers level [] := by
  intro name x first outer cs rest fuel head enough
  obtain ⟨fuel, rfl⟩ := exists_fuel enough
  have within : (chars level x).length < fuel := by omega
  obtain ⟨_, _, _, quote, text, mark, read⟩ := exists_member first within
    (endsNumber_memberChars level [] (endsNumber_newline outer rfl)) head
  rw [← String.ofList_toList (s := name)]
  refine members?_last quote text mark read ?_
  rw [memberChars, List.nil_append, skipBlanks_newline]
  rfl

theorem readsMembers_cons (next : ReadsValue level y) (others : ReadsMembers level ms) :
    ReadsMembers level ((second, y) :: ms) := by
  intro name x first outer cs rest fuel head enough
  obtain ⟨fuel, rfl⟩ := exists_fuel enough
  have within : (chars level x).length < fuel := by omega
  obtain ⟨_, _, _, quote, text, mark, read⟩ := exists_member first within
    (endsNumber_memberChars level _ (endsNumber_newline outer rfl)) head
  simp only [memberChars, List.length_append, List.length_cons] at enough
  rw [memberChars_cons_append] at read
  rw [← String.ofList_toList (s := name)]
  refine members?_next quote text mark read rfl
    (others second y next outer _ rest fuel ?_ (by omega))
  rw [skipBlanks_newline]
  rfl

/-- Any value is read back from its text, with or without indentation. -/
theorem readsValue (level : Option Nat) (x : Json) : ReadsValue level x := by
  refine (chars.mutual_induct ReadsValue ReadsMembers ReadsItems ?_ ?_ ?_ ?_ ?_ ?_ ?_ ?_ ?_ ?_).1
    level x
  · exact fun _ text => readsValue_str text
  · exact fun _ n => readsValue_num n
  · exact fun _ => readsValue_arr_nil
  · exact fun _ _ _ first others => readsValue_arr first others
  · exact fun _ => readsValue_obj_nil
  · exact fun _ _ _ _ first others => readsValue_obj first others
  · exact fun _ => readsItems_nil
  · exact fun _ _ _ next others => readsItems_cons next others
  · exact fun _ => readsMembers_nil
  · exact fun _ _ _ _ next others => readsMembers_cons next others

/-- Every value is read back from its text. -/
theorem ofText?_chars (level : Option Nat) (x : Json) :
    ofText? (String.ofList (chars level x)) = some x := by
  have read : value? ((chars level x).length + 1) (chars level x) = some (x, []) := by
    refine readsValue level x _ [] _ ?_ (Nat.lt_succ_self _) rfl
    rw [← skipBlanks_chars, List.append_nil]
  rw [ofText?, String.length_ofList, String.toList_ofList, read]
  rfl

end Highlight.Json
