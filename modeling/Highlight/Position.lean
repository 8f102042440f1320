/-! Places in a text. Lines and columns count from one, columns in characters. The offset counts
UTF-8 bytes from the very start of the text. -/
namespace Highlight

structure Position where
  line : Nat
  column : Nat
  offset : Nat
deriving DecidableEq, Repr

/-- Number of bytes that the characters take in UTF-8. -/
def byteLength : List Char → Nat
  | [] => 0
  | c :: cs => c.utf8Size + byteLength cs

theorem byteLength_append (cs ds : List Char) :
    byteLength (cs ++ ds) = byteLength cs + byteLength ds := by
  induction cs with
  | nil => simp [byteLength]
  | cons c cs ih => simp [byteLength, ih, Nat.add_assoc]

namespace Position

/-- The first character of a text, after `skipped` bytes that take no column. -/
def start (skipped : Nat) : Position :=
  ⟨1, 1, skipped⟩

/-- The place after `c`. A line feed starts a new line, a carriage return does not. -/
def next (p : Position) (c : Char) : Position :=
  if c = '\n' then ⟨p.line + 1, 1, p.offset + c.utf8Size⟩
  else ⟨p.line, p.column + 1, p.offset + c.utf8Size⟩

def after (p : Position) (cs : List Char) : Position :=
  cs.foldl next p

/-- The place after `cs` when `cs` as a whole is one line break. -/
def afterBreak (p : Position) (cs : List Char) : Position :=
  ⟨p.line + 1, 1, p.offset + byteLength cs⟩

def describe (p : Position) : String :=
  "line " ++ toString p.line ++ ", column " ++ toString p.column

@[simp] theorem after_nil (p : Position) : p.after [] = p := rfl

@[simp] theorem after_cons (p : Position) (c : Char) (cs : List Char) :
    p.after (c :: cs) = (p.next c).after cs := rfl

theorem after_append (p : Position) (cs ds : List Char) :
    p.after (cs ++ ds) = (p.after cs).after ds :=
  List.foldl_append

@[simp] theorem offset_next (p : Position) (c : Char) :
    (p.next c).offset = p.offset + c.utf8Size := by
  unfold next; split <;> rfl

theorem offset_after (p : Position) (cs : List Char) :
    (p.after cs).offset = p.offset + byteLength cs := by
  induction cs generalizing p with
  | nil => rfl
  | cons c cs ih => simp [ih, byteLength, Nat.add_assoc]

end Position
end Highlight
