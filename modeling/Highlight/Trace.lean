import Highlight.Source

/-! Traces: what happens on the way from a source text to its tokens, in order. -/
namespace Highlight

inductive TraceEntry
  | lexing (bytes : Nat)
  | classifying (lexemes : Nat)
  | event (event : Event)
  | failed (error : Error)
deriving DecidableEq, Repr

def traceClassification (xs : List Lexeme) : List TraceEntry × Except Error (List Token) :=
  match classification xs with
  | .ok s => (.classifying xs.length :: s.events.reverse.map .event, .ok s.tokens.reverse)
  | .error ⟨s, e⟩ =>
    (.classifying xs.length :: s.events.reverse.map .event ++ [.failed (.classify e)],
      .error (.classify e))

/-- The trace of a source text, and its tokens if there are any. -/
def trace (text : String) : List TraceEntry × Except Error (List Token) :=
  match lex text with
  | .error e => ([.lexing text.utf8ByteSize, .failed (.lex e)], .error (.lex e))
  | .ok xs =>
    let (entries, result) := traceClassification xs
    (.lexing text.utf8ByteSize :: entries, result)

/-- Tracing changes no answer. -/
theorem trace_snd (text : String) : (trace text).2 = tokens text := by
  unfold trace tokens
  cases lex text with
  | error e => rfl
  | ok xs =>
    simp only [traceClassification, classify]
    cases classification xs <;> rfl

end Highlight
