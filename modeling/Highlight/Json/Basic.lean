/-! JSON values, as far as tokens need them, and their text. -/
namespace Highlight

inductive Json
  | str (text : String)
  | num (n : Nat)
  | arr (items : List Json)
  | obj (members : List (String × Json))

namespace Json

def member? (name : String) : Json → Option Json
  | .obj members => members.lookup name
  | _ => none

def str? : Json → Option String
  | .str text => some text
  | _ => none

def num? : Json → Option Nat
  | .num n => some n
  | _ => none

end Json
end Highlight
