import Highlight.Json.Basic

/-! JSON text. A compact text has no blanks. In an indented one each item and each member has a line
of its own, two spaces deeper than the brackets around it. -/
namespace Highlight.Json

/-- A character of a string. Quotes, backslashes and control characters are escaped. -/
def escape (c : Char) : List Char :=
  if c = '"' then ['\\', '"']
  else if c = '\\' then ['\\', '\\']
  else if c = '\x08' then ['\\', 'b']
  else if c = '\x0c' then ['\\', 'f']
  else if c = '\n' then ['\\', 'n']
  else if c = '\r' then ['\\', 'r']
  else if c = '\t' then ['\\', 't']
  else if c.toNat < 0x20 then
    ['\\', 'u', '0', '0', Nat.digitChar (c.toNat / 16), Nat.digitChar (c.toNat % 16)]
  else [c]

def quote (text : String) : List Char :=
  '"' :: text.toList.flatMap escape ++ ['"']

/-- What stands between two tokens of the text that may be on different lines, at the given level
of indentation. -/
def newline : Option Nat → List Char
  | none => []
  | some level => '\n' :: List.replicate (2 * level) ' '

def colon : Option Nat → List Char
  | none => [':']
  | some _ => [':', ' ']

mutual

/-- The text of a value at the given level of indentation, or without any. -/
def chars (level : Option Nat) : Json → List Char
  | .str text => quote text
  | .num n => Nat.toDigits 10 n
  | .arr [] => ['[', ']']
  | .arr (x :: xs) =>
    let inner := level.map (· + 1)
    '[' :: newline inner ++ chars inner x ++ itemChars inner xs ++ newline level ++ [']']
  | .obj [] => ['{', '}']
  | .obj ((name, x) :: xs) =>
    let inner := level.map (· + 1)
    '{' :: newline inner ++ quote name ++ colon inner ++ chars inner x ++ memberChars inner xs ++
      newline level ++ ['}']

def itemChars (level : Option Nat) : List Json → List Char
  | [] => []
  | x :: xs => ',' :: newline level ++ chars level x ++ itemChars level xs

def memberChars (level : Option Nat) : List (String × Json) → List Char
  | [] => []
  | (name, x) :: xs =>
    ',' :: newline level ++ quote name ++ colon level ++ chars level x ++ memberChars level xs

end

def compact (x : Json) : String :=
  String.ofList (x.chars none)

def indented (x : Json) : String :=
  String.ofList (x.chars (some 0))

end Highlight.Json
