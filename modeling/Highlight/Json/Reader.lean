import Highlight.Json.Basic

/-! Reading JSON text. The values are those of `Json`, so fractions, negative numbers, truth values
and null are refused. -/
namespace Highlight.Json

def skipBlanks (cs : List Char) : List Char :=
  cs.dropWhile fun c => c = ' ' || c = '\t' || c = '\n' || c = '\r'

def hexDigit? (c : Char) : Option Nat :=
  if c.isDigit then some (c.toNat - 0x30)
  else if 'a' ≤ c && c ≤ 'f' then some (c.toNat - 0x57)
  else if 'A' ≤ c && c ≤ 'F' then some (c.toNat - 0x37)
  else none

/-- The character of an escape of four hexadecimal digits. Halves of surrogate pairs are none. -/
def codeUnit? (a b c d : Char) : Option Char := do
  let high := 0x10 * (← hexDigit? a) + (← hexDigit? b)
  let low := 0x10 * (← hexDigit? c) + (← hexDigit? d)
  let n := 0x100 * high + low
  if 0xD800 ≤ n && n < 0xE000 then none else some (Char.ofNat n)

/-- The character that a backslash and `c` stand for. -/
def unescape? (c : Char) : Option Char :=
  if c = '"' || c = '\\' || c = '/' then some c
  else if c = 'b' then some '\x08'
  else if c = 'f' then some '\x0c'
  else if c = 'n' then some '\n'
  else if c = 'r' then some '\r'
  else if c = 't' then some '\t'
  else none

def stringChars? : List Char → Option (List Char × List Char)
  | [] => none
  | '"' :: r => some ([], r)
  | '\\' :: 'u' :: a :: b :: c :: d :: r => do
    let x ← codeUnit? a b c d
    let (xs, r) ← stringChars? r
    return (x :: xs, r)
  | '\\' :: c :: r => do
    let x ← unescape? c
    let (xs, r) ← stringChars? r
    return (x :: xs, r)
  | c :: r => do
    if c.toNat < 0x20 || c = '\\' then none
    let (xs, r) ← stringChars? r
    return (c :: xs, r)

/-- A number without leading zeros, and what follows it. -/
def number? (cs : List Char) : Option (Nat × List Char) :=
  match cs.takeWhile Char.isDigit with
  | [] => none
  | '0' :: _ :: _ => none
  | digits => some (Nat.ofDigitChars 10 digits 0, cs.dropWhile Char.isDigit)

mutual

/-- The value at the head of a text, and what follows it. Values inside of values are read as long
as there is fuel. -/
def value? : Nat → List Char → Option (Json × List Char)
  | 0, _ => none
  | fuel + 1, cs =>
    match skipBlanks cs with
    | '"' :: r => do
      let (text, r) ← stringChars? r
      return (.str (String.ofList text), r)
    | '[' :: r =>
      match skipBlanks r with
      | ']' :: r => some (.arr [], r)
      | r => do
        let (items, r) ← items? fuel r
        return (.arr items, r)
    | '{' :: r =>
      match skipBlanks r with
      | '}' :: r => some (.obj [], r)
      | r => do
        let (members, r) ← members? fuel r
        return (.obj members, r)
    | r => do
      let (n, r) ← number? r
      return (.num n, r)

def items? : Nat → List Char → Option (List Json × List Char)
  | 0, _ => none
  | fuel + 1, cs => do
    let (x, r) ← value? fuel cs
    match skipBlanks r with
    | ',' :: r =>
      let (xs, r) ← items? fuel r
      return (x :: xs, r)
    | ']' :: r => return ([x], r)
    | _ => none

def members? : Nat → List Char → Option (List (String × Json) × List Char)
  | 0, _ => none
  | fuel + 1, cs =>
    match skipBlanks cs with
    | '"' :: r => do
      let (name, r) ← stringChars? r
      match skipBlanks r with
      | ':' :: r =>
        let (x, r) ← value? fuel r
        match skipBlanks r with
        | ',' :: r =>
          let (xs, r) ← members? fuel r
          return ((String.ofList name, x) :: xs, r)
        | '}' :: r => return ([(String.ofList name, x)], r)
        | _ => none
      | _ => none
    | _ => none

end

/-- The value that a text stands for. Readers call each other no deeper than the text is long. -/
def ofText? (text : String) : Option Json := do
  let (x, r) ← value? (text.length + 1) text.toList
  if (skipBlanks r).isEmpty then some x else none

end Highlight.Json
