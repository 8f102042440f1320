import Highlight.Proofs.Json.Reading
import Highlight.Token.Data

/-! Tokens are read back from their JSON text. Each role is told from all others by its name and its
value, and each word of a role from all others of its table. -/
namespace Highlight

/-- A word that stands once in a table is found again. -/
theorem find?_word [DecidableEq β] {word : α → β} {table : List α} (once : (table.map word).Nodup)
    (member : a ∈ table) : table.find? (word · = word a) = some a := by
  induction table with
  | nil => contradiction
  | cons b table ih =>
    rw [List.map_cons, List.nodup_cons] at once
    rcases List.mem_cons.mp member with rfl | member
    · rw [List.find?_cons_of_pos (by simp)]
    · have other : word b ≠ word a := by
        intro same
        exact once.1 (same ▸ List.mem_map_of_mem member)
      rw [List.find?_cons_of_neg (by simpa using other)]
      exact ih once.2 member

theorem Keyword.mem_all (k : Keyword) : k ∈ all := by
  cases k with
  | declares kind => cases kind <;> decide
  | whereClause | newConstraint => decide

theorem Modifier.mem_all (m : Modifier) : m ∈ all := by
  cases m <;> decide

theorem Punctuation.mem_all (p : Punctuation) : p ∈ all := by
  cases p <;> decide

theorem Keyword.nodup_spelling : (all.map spelling).Nodup := by
  decide +kernel

theorem Modifier.nodup_spelling : (all.map spelling).Nodup := by
  decide +kernel

theorem Punctuation.nodup_dataName : (all.map dataName).Nodup := by
  decide +kernel

/-- No two roles have the same name and value. -/
theorem Role.ofData?_toData (r : Role) : ofData? r.toData = some r := by
  cases r with
  | keyword k => simp [toData, ofData?, find?_word Keyword.nodup_spelling k.mem_all]
  | modifier m => simp [toData, ofData?, find?_word Modifier.nodup_spelling m.mem_all]
  | punctuation p => simp [toData, ofData?, find?_word Punctuation.nodup_dataName p.mem_all]
  | name kind text => simp [toData, ofData?, DeclKind.ofWord?_spelling]
  | _ => rfl

theorem Role.ofJson?_toJson (r : Role) : ofJson? r.toJson = some r := by
  simp only [ofJson?, toJson, Json.member?, Json.str?, List.lookup_cons]
  exact ofData?_toData r

theorem Position.ofJson?_toJson (p : Position) : ofJson? p.toJson = some p := by
  simp [ofJson?, toJson, Json.member?, Json.num?, List.lookup_cons]

theorem Token.ofJson?_toJson (t : Token) : ofJson? t.toJson = some t := by
  simp [ofJson?, toJson, Json.member?, List.lookup_cons, Role.ofJson?_toJson,
    Position.ofJson?_toJson]

theorem Token.mapM_ofJson? (ts : List Token) : (ts.map toJson).mapM ofJson? = some ts := by
  induction ts with
  | nil => rfl
  | cons t ts ih => simp [List.mapM_cons, ofJson?_toJson, ih]

theorem tokensOfJsonText?_jsonText (ts : List Token) :
    tokensOfJsonText? (jsonText ts) = some ts := by
  have read : Json.ofText? (jsonText ts) = some (.arr (ts.map Token.toJson)) :=
    Json.ofText?_chars (some 0) _
  rw [tokensOfJsonText?, read]
  exact Token.mapM_ofJson? ts

/-- Nothing is lost: the tokens are read back from their text, and no other tokens have it. -/
theorem jsonText_lossless (ts : List Token) :
    tokensOfJsonText? (jsonText ts) = some ts ∧ ∀ us, jsonText us = jsonText ts ↔ us = ts := by
  refine ⟨tokensOfJsonText?_jsonText ts, fun us => ⟨fun same => ?_, congrArg jsonText⟩⟩
  have read := tokensOfJsonText?_jsonText us
  rw [same, tokensOfJsonText?_jsonText ts] at read
  exact (Option.some.inj read).symm

end Highlight
