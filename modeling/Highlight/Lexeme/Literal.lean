import Highlight.Lexeme.Alphabet
import Highlight.Lexeme.Error

/-! How far a literal or a block comment reaches.

Each reader is given the characters after an opening and answers how many of them belong to the
literal, its closing included. There are four styles of strings. An interpolated string holds code
in its holes, so it is the one style whose reader meets other literals. -/
namespace Highlight

/-- A fault in a lexeme, `ahead` characters after its first. -/
structure RelativeFault where
  fault : LexFault
  ahead : Nat
deriving DecidableEq, Repr

/-- Why a string has no end: its own closing is missing, or that of a literal in one of its holes,
`ahead` characters further on. -/
inductive Unclosed
  | self
  | inner (fault : LexFault) (ahead : Nat)
deriving DecidableEq, Repr

/-- A plain string has escapes and is on one line, a verbatim one has doubled quotes only, and a raw
one is closed by a run of at least as many quotes as opened it. -/
inductive StringStyle
  | plain
  | verbatim
  | raw (quotes : Nat)
  | interpolated (verbatim : Bool)
deriving DecidableEq, Repr

/-- The characters that open a string, `ahead` of them behind the first. -/
structure Opening where
  style : StringStyle
  ahead : Nat
deriving DecidableEq, Repr

def isStringSigil (c : Char) : Bool :=
  c = '@' || c = '$'

/-- Sigils and quotes at the head of `cs`, if together they open a string. Three quotes open a raw
string, unless an `@` makes it verbatim, and only a raw string may have more than one `$`. -/
def Opening.of? (cs : List Char) : Option Opening :=
  let sigils := cs.takeWhile isStringSigil
  let quotes := runLength (· = '"') (cs.dropWhile isStringSigil)
  if quotes = 0 then none
  else match sigils.count '@', sigils.count '$' with
    | 0, dollars =>
      if 3 ≤ quotes then some ⟨.raw quotes, sigils.length + quotes - 1⟩
      else match dollars with
        | 0 => some ⟨.plain, sigils.length⟩
        | 1 => some ⟨.interpolated false, sigils.length⟩
        | _ => none
    | 1, 0 => some ⟨.verbatim, sigils.length⟩
    | 1, 1 => some ⟨.interpolated true, sigils.length⟩
    | _, _ => none

/-- Up to the first `delimiter` that no backslash escapes. A line break comes too late. -/
def delimitedLength? (delimiter : Char) : List Char → Option Nat
  | [] => none
  | c :: r =>
    if isLineBreak c then none
    else if c = delimiter then some 1
    else if c = '\\' then
      match r with
      | [] => none
      | d :: r => if isLineBreak d then none else (delimitedLength? delimiter r).map (· + 2)
    else (delimitedLength? delimiter r).map (· + 1)

/-- Up to the first quote that is not doubled. -/
def doubledLength? : List Char → Option Nat
  | [] => none
  | c :: r =>
    if c = '"' then
      match r with
      | [] => some 1
      | d :: r => if d = '"' then (doubledLength? r).map (· + 2) else some 1
    else (doubledLength? r).map (· + 1)

/-- Up to the end of the first whole run of at least `quotes` quotes, when `run` quotes have just
been read. -/
def rawLength? (quotes run : Nat) : List Char → Option Nat
  | [] => if quotes ≤ run then some 0 else none
  | c :: r =>
    if c = '"' then (rawLength? quotes (run + 1) r).map (· + 1)
    else if quotes ≤ run then some 0
    else (rawLength? quotes 0 r).map (· + 1)

def commentLength? : List Char → Option Nat
  | [] => none
  | c :: r => if c = '*' && r.head? = some '/' then some 2 else (commentLength? r).map (· + 1)

namespace Interpolation

/-- What an interpolated string does with the character at its head. It may pass `further`
characters with it, and then has `holes` braces open. -/
inductive Move
  | broken
  | close
  | pass (further holes : Nat)
  | string (opening : Opening)
  | character
deriving DecidableEq, Repr

/-- The move at `c`, followed by `r`, with `holes` braces open. Outside the holes this is text:
quotes close it, and `{{` is a brace. Inside it is code, where quotes open other literals. -/
def move (verbatim : Bool) (holes : Nat) (c : Char) (r : List Char) : Move :=
  if holes = 0 then
    if !verbatim && isLineBreak c then .broken
    else if c = '{' then if r.head? = some '{' then .pass 1 0 else .pass 0 1
    else if c = '"' then if verbatim && r.head? = some '"' then .pass 1 0 else .close
    else if !verbatim && c = '\\' && r.head?.any (!isLineBreak ·) then .pass 1 0
    else .pass 0 0
  else
    if c = '{' then .pass 0 (holes + 1)
    else if c = '}' then .pass 0 (holes - 1)
    else if let some opening := Opening.of? (c :: r) then .string opening
    else if c = '\'' then .character
    else if !verbatim && c = '\\' && r.head?.any (!isLineBreak ·) then .pass 1 holes
    else .pass 0 holes

end Interpolation

/-- The answer of a reader that starts `n` characters further on. -/
def shiftLength (n : Nat) : Except Unclosed Nat → Except Unclosed Nat
  | .ok length => .ok (n + length)
  | .error .self => .error .self
  | .error (.inner fault ahead) => .error (.inner fault (n + ahead))

def simpleLength : Option Nat → Except Unclosed Nat
  | some length => .ok length
  | none => .error .self

/-- The answer for a string, after its first character, from the answer of the reader that was given
what follows the opening. -/
def Opening.total (opening : Opening) : Except Unclosed Nat → Except RelativeFault Nat
  | .ok length => .ok (opening.ahead + length)
  | .error .self => .error ⟨.unterminatedString, 0⟩
  | .error (.inner fault ahead) => .error ⟨fault, opening.ahead + 1 + ahead⟩

mutual

/-- How many characters of `r` belong to the string whose first character stands before `r`. -/
def Opening.length (r : List Char) (opening : Opening) : Except RelativeFault Nat :=
  opening.total <|
    match opening.style with
    | .plain => simpleLength (delimitedLength? '"' (r.drop opening.ahead))
    | .verbatim => simpleLength (doubledLength? (r.drop opening.ahead))
    | .raw quotes => simpleLength (rawLength? quotes 0 (r.drop opening.ahead))
    | .interpolated verbatim => interpolatedLength verbatim 0 (r.drop opening.ahead)
termination_by 2 * r.length + 1
decreasing_by simp only [List.length_drop]; omega

/-- Up to the closing quote of an interpolated string in which `holes` braces are open. -/
def interpolatedLength (verbatim : Bool) (holes : Nat) (cs : List Char) :
    Except Unclosed Nat :=
  match cs with
  | [] => .error .self
  | c :: r =>
    match Interpolation.move verbatim holes c r with
    | .broken => .error .self
    | .close => .ok 1
    | .pass further holes =>
      shiftLength (further + 1) (interpolatedLength verbatim holes (r.drop further))
    | .character =>
      match delimitedLength? '\'' r with
      | none => .error (.inner .unterminatedCharacter 0)
      | some length => shiftLength (length + 1) (interpolatedLength verbatim holes (r.drop length))
    | .string opening =>
      match opening.length r with
      | .error e => .error (.inner e.fault e.ahead)
      | .ok length => shiftLength (length + 1) (interpolatedLength verbatim holes (r.drop length))
termination_by 2 * cs.length
decreasing_by all_goals simp only [List.length_drop, List.length_cons]; omega

end

end Highlight
