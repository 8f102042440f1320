import Highlight.Unicode.Numeric

/-! The character classes that lexemes are made of. -/
namespace Highlight

def isLineBreak (c : Char) : Bool :=
  c = '\n' || c = '\r'

/-- Space, tab, vertical tab and form feed. No other white space may stand between lexemes. -/
def isBlank (c : Char) : Bool :=
  c = ' ' || c = '\t' || c = '\x0b' || c = '\x0c'

def isWordStart (c : Char) : Bool :=
  Unicode.isAlphabetic c || c = '_'

def isWordContinue (c : Char) : Bool :=
  Unicode.isAlphanumeric c || c = '_'

/-- The visible ASCII characters other than letters and digits. -/
def isPunctuation (c : Char) : Bool :=
  0x21 ≤ c.toNat && c.toNat ≤ 0x7E && !c.isAlphanum

/-- Number of characters before the first one outside `p`. -/
def runLength (p : Char → Bool) (cs : List Char) : Nat :=
  (cs.takeWhile p).length

theorem isWordContinue_of_isWordStart (start : isWordStart c) : isWordContinue c := by
  simp only [isWordStart, isWordContinue, Unicode.isAlphanumeric, Bool.or_eq_true] at *
  exact start.imp .inl id

end Highlight
