import Mathlib.Logic.Relation
import Highlight.Lexeme.Lexing
import Highlight.Proofs.Scanning.Cursor

/-! Scanning a text with a cursor, step by step.

Lexemes are read by readers with loops of their own. The reader of strings calls other readers for
the literals in holes, and itself for strings in strings, so that the readers at work form a stack.
One step skips a character, or finds out what the reader on top of the stack does at the cursor. -/
namespace Highlight

/-- Lexemes that end in front of the first character that does not belong to them. -/
inductive Run
  | directive
  | blanks
  | lineComment
  | word
deriving DecidableEq, Repr

namespace Run

def takes : Run → Char → Bool
  | .directive, c | .lineComment, c => !isLineBreak c
  | .blanks, c => isBlank c
  | .word, c => isWordContinue c

def kind : Run → LexemeKind
  | .directive => .directive
  | .blanks => .whitespace
  | .lineComment => .comment
  | .word => .word

end Run

/-- Where a reader is, and what it remembers there. In a string that is not raw, `holes` braces are
open. -/
inductive Point
  | lineBreak
  | behindReturn
  | run (r : Run)
  | wordOpening
  | commentOpening
  | comment
  | string
  | sigils (verbatim interpolated : Bool)
  | rawOpening
  | raw (quotes : Nat)
  | bodyOpening (verbatim interpolated : Bool)
  | body (verbatim interpolated : Bool) (holes : Nat)
  | characterOpening
  | character
  | number
  | mark
  | ended (kind : LexemeKind)
deriving DecidableEq, Repr

/-- What a reader does next. `escape` skips a backslash, and the character behind it too unless the
line ends there. -/
inductive Move
  | pass (skips : Nat) (next : Point)
  | escape (next : Point)
  | newLine
  | call (reader : Point)
  | leave (kind : LexemeKind)
  | fail (fault : LexFault)
deriving DecidableEq, Repr

/-- The reader of a lexeme that starts with `c`. Whether sigils open a string is asked only where
`c` is one. -/
def reader? (lineStart sigils : Bool) (c : Char) (r : List Char) : Option Point :=
  if isLineBreak c then some .lineBreak
  else if lineStart && c = '#' then some (.run .directive)
  else if isBlank c then some (.run .blanks)
  else if c = '/' && r.head? = some '/' then some (.run .lineComment)
  else if c = '/' && r.head? = some '*' then some .commentOpening
  else if c = '"' then some .string
  else if sigils then some (.sigils false false)
  else if c = '\'' then some .characterOpening
  else if c.isDigit then some .number
  else if c = '@' && r.head?.any isWordStart then some .wordOpening
  else if isWordStart c then some .wordOpening
  else if isPunctuation c then some .mark
  else none

namespace Point

def moveInBody (verbatim interpolated : Bool) (holes : Nat) (sigils : Bool) :
    List Char → Move
  | [] => .fail .unterminatedString
  | c :: r =>
    let stay := body verbatim interpolated holes
    if isLineBreak c && !verbatim && holes = 0 then .fail .unterminatedString
    else if c = '{' && interpolated then
      if holes = 0 && r.head? = some '{' then .pass 2 stay
      else .pass 1 (.body verbatim interpolated (holes + 1))
    else if c = '}' && 0 < holes then .pass 1 (.body verbatim interpolated (holes - 1))
    else if c = '"' && 0 < holes then .call .string
    else if sigils then .call (.sigils false false)
    else if c = '\'' && 0 < holes then .call .characterOpening
    else if c = '"' && verbatim && r.head? = some '"' then .pass 2 stay
    else if c = '"' then .pass 1 (.ended .literal)
    else if c = '\\' && !verbatim then .escape stay
    else .pass 1 stay

def moveInComment : List Char → Move
  | [] => .fail .unterminatedComment
  | c :: r =>
    if c = '*' && r.head? = some '/' then .pass 2 (.ended .comment) else .pass 1 .comment

def moveInRaw (quotes : Nat) : List Char → Move
  | [] => .fail .unterminatedString
  | c :: r =>
    if c = '"' then
      let run := runLength (· = '"') (c :: r)
      .pass run (if quotes ≤ run then .ended .literal else .raw quotes)
    else .pass 1 (.raw quotes)

def moveInCharacter : List Char → Move
  | [] => .fail .unterminatedCharacter
  | c :: _ =>
    if isLineBreak c then .fail .unterminatedCharacter
    else if c = '\\' then .escape .character
    else if c = '\'' then .pass 1 (.ended .literal)
    else .pass 1 .character

def moveInNumber : List Char → Move
  | [] => .pass 0 (.ended .literal)
  | c :: r =>
    if c.isAlphanum || c = '_' || c = '.' && r.head?.any Char.isDigit then .pass 1 .number
    else .pass 0 (.ended .literal)

def moveInSigils (verbatim interpolated : Bool) : List Char → Move
  | [] => .pass 0 (.bodyOpening verbatim interpolated)
  | c :: r =>
    if isStringSigil c then .pass 1 (.sigils (verbatim || c = '@') (interpolated || c = '$'))
    else if !verbatim && 3 ≤ runLength (· = '"') (c :: r) then .pass 0 .rawOpening
    else .pass 0 (.bodyOpening verbatim interpolated)

/-- The move with `cs` in front of the reader, when it is known whether sigils open a string
there. -/
def moveWith (sigils : Bool) (cs : List Char) : Point → Move
  | .lineBreak => .pass 1 (if cs.head? = some '\r' then .behindReturn else .ended .newline)
  | .behindReturn => if cs.head? = some '\n' then .pass 1 (.ended .newline) else .newLine
  | .run r => if cs.head?.any r.takes then .pass 1 (.run r) else .pass 0 (.ended r.kind)
  | .wordOpening => .pass (if cs.head? = some '@' then 1 else 0) (.run .word)
  | .commentOpening => .pass 2 .comment
  | .comment => moveInComment cs
  | .string =>
    .pass 0 (if 3 ≤ runLength (· = '"') cs then .rawOpening else .bodyOpening false false)
  | .sigils verbatim interpolated => moveInSigils verbatim interpolated cs
  | .rawOpening =>
    let quotes := runLength (· = '"') cs
    .pass quotes (.raw quotes)
  | .raw quotes => moveInRaw quotes cs
  | .bodyOpening verbatim interpolated => .pass 1 (.body verbatim interpolated 0)
  | .body verbatim interpolated holes => moveInBody verbatim interpolated holes sigils cs
  | .characterOpening => .pass 1 .character
  | .character => moveInCharacter cs
  | .number => moveInNumber cs
  | .mark => .pass 1 (.ended .punctuation)
  | .ended kind => .leave kind

/-- Whether sigils open a string is asked in a hole only, in front of one. -/
def asks (cs : List Char) : Point → Bool
  | .body _ _ holes => 0 < holes && cs.head?.any isStringSigil
  | _ => false

def move (rest : String) (point : Point) : Except Miscut Move := do
  let sigils ← atSigilsIf (point.asks rest.toList) rest
  return point.moveWith sigils rest.toList

def moveAt (cs : List Char) (point : Point) : Move :=
  point.moveWith (point.asks cs && (Opening.of? cs).isSome) cs

/-- What a reader does can be told from the characters in front of it. -/
theorem move_ofList (point : Point) (cs : List Char) :
    point.move (String.ofList cs) = .ok (point.moveAt cs) := by
  have sigil (asked : point.asks cs = true) : cs.head?.any isStringSigil = true := by
    cases point with
    | body => exact (Bool.and_eq_true_iff.mp asked).2
    | _ => contradiction
  rw [move, String.toList_ofList, atSigilsIf_eq sigil]
  rfl

end Point

structure Frame where
  point : Point
  start : Position
deriving DecidableEq, Repr

/-- Before anything else `skips` characters are skipped, and behind them one more if it belongs to a
backslash. The line holds nothing but blanks as long as `lineStart` says so, and the latest lexeme
stands first. -/
structure Scan where
  cursor : Cursor
  skips : Nat := 0
  escape : Bool := false
  /-- The reader on top of the stack stands first, and was called by the one behind it. Nothing
  bounds this stack, whereas a reader of strings that calls itself for each string in a string is
  bounded by its native stack. -/
  frames : List Frame := []
  lineStart : Bool := true
  lexemes : List Lexeme := []
deriving DecidableEq, Repr

inductive Outcome
  | more (s : Scan)
  | done (xs : List Lexeme)
  | failed (e : LexError)
deriving DecidableEq, Repr

namespace Scan

/-- A byte order mark at the start is skipped. -/
def start (text : String) : Scan :=
  { cursor := ⟨text, .start (leadingMark text).utf8ByteSize⟩ }

/-- Between two lexemes. -/
def begin (s : Scan) (rest : String) : Except Miscut Outcome :=
  match rest.toList with
  | [] => .ok (.done s.lexemes.reverse)
  | c :: r => do
    let sigils ← atSigilsIf (isStringSigil c) rest
    match reader? s.lineStart sigils c r with
    | some reader => return .more { s with frames := [⟨reader, s.cursor.position⟩] }
    | none => return .failed ⟨.unexpectedCharacter c, s.cursor.position⟩

/-- The reader `f` has read `text`. A lexeme in a string is read for its end only. -/
def close (s : Scan) (f : Frame) (below : List Frame) (kind : LexemeKind) (text : String) : Scan :=
  match below with
  | [] =>
    { s with
      frames := []
      lexemes := ⟨kind, text, f.start⟩ :: s.lexemes
      lineStart := kind = .newline || kind = .whitespace && s.lineStart }
  | _ => { s with frames := below }

def act (s : Scan) (f : Frame) (below : List Frame) : Move → Except Miscut Outcome
  | .pass skips next => .ok (.more { s with skips, frames := ⟨next, f.start⟩ :: below })
  | .escape next =>
    .ok (.more { s with skips := 1, escape := true, frames := ⟨next, f.start⟩ :: below })
  | .newLine =>
    .ok (.more { s with
      cursor := s.cursor.newLine
      frames := ⟨.ended .newline, f.start⟩ :: below })
  | .call reader => .ok (.more { s with frames := ⟨reader, s.cursor.position⟩ :: f :: below })
  | .leave kind =>
    (cut s.cursor.text f.start.offset s.cursor.position.offset).map fun text =>
      .more (s.close f below kind text)
  | .fail fault => .ok (.failed ⟨fault, f.start⟩)

def step (s : Scan) : Except Miscut Outcome :=
  if 0 < s.skips then do
    let cursor ← s.cursor.advance
    return .more { s with cursor, skips := s.skips - 1 }
  else do
    let rest ← s.cursor.remaining
    if s.escape then
      let skips := if rest.toList.head?.any (!isLineBreak ·) then 1 else 0
      return .more { s with escape := false, skips }
    else match s.frames with
      | [] => s.begin rest
      | f :: below => s.act f below (← f.point.move rest)

def Steps (s t : Scan) : Prop :=
  s.step = .ok (.more t)

def Reachable (text : String) (s : Scan) : Prop :=
  Relation.ReflTransGen Steps (start text) s

/-- What the scan comes to in at most `n` steps. -/
def run : Nat → Scan → Except Miscut Outcome
  | 0, s => .ok (.more s)
  | n + 1, s =>
    match s.step with
    | .ok (.more t) => t.run n
    | .ok (.done xs) => .ok (.done xs)
    | .ok (.failed e) => .ok (.failed e)
    | .error miscut => .error miscut

section

variable {s : Scan} {front rest : List Char} {c : Char}

theorem step_skip (between : s.cursor.Between front (c :: rest)) (pending : 0 < s.skips) :
    s.step = .ok (.more { s with cursor := s.cursor.after [c], skips := s.skips - 1 }) := by
  rw [step, if_pos pending, between.advance]
  rfl

theorem step_escape (between : s.cursor.Between front rest) (none : s.skips = 0)
    (escape : s.escape = true) :
    s.step = .ok (.more { s with
      escape := false
      skips := if rest.head?.any (!isLineBreak ·) then 1 else 0 }) := by
  rw [step, if_neg (by omega), between.remaining]
  simp only [escape, bind, Except.bind, String.toList_ofList]
  rfl

theorem step_begin (between : s.cursor.Between front rest) (none : s.skips = 0)
    (escape : s.escape = false) (frames : s.frames = []) :
    s.step = s.begin (String.ofList rest) := by
  rw [step, if_neg (by omega), between.remaining]
  simp only [escape, frames, bind, Except.bind]
  rfl

/-- Which reader starts can be told from the characters in front of it. -/
theorem begin_cons (s : Scan) (c : Char) (r : List Char) :
    s.begin (String.ofList (c :: r)) = .ok
      (match reader? s.lineStart (isStringSigil c && (Opening.of? (c :: r)).isSome) c r with
        | some reader => .more { s with frames := [⟨reader, s.cursor.position⟩] }
        | none => .failed ⟨.unexpectedCharacter c, s.cursor.position⟩) := by
  rw [begin, String.toList_ofList]
  dsimp only
  rw [atSigilsIf_cons]
  simp only [bind, Except.bind]
  cases reader? s.lineStart (isStringSigil c && (Opening.of? (c :: r)).isSome) c r <;> rfl

theorem step_act (between : s.cursor.Between front rest) (none : s.skips = 0)
    (escape : s.escape = false) (frames : s.frames = f :: below)
    (moves : f.point.moveAt rest = m) : s.step = s.act f below m := by
  rw [step, if_neg (by omega), between.remaining]
  simp only [escape, frames, Point.move_ofList, moves, bind, Except.bind]
  rfl

end

end Scan
end Highlight
