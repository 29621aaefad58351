/-!
# Coloured text

A text for a terminal is a list of spans, each in one ink. Without colours the inks say nothing;
with colours, a span in any ink but the plain one stands between the code of its ink and the code
that ends it.
-/

namespace ContractBindings.Text

/-- The looks of a span. -/
inductive Ink where
  | plain
  | bold
  | dim
  | italic
  | green
  | yellow
  | blue
  deriving DecidableEq, Repr

/-- The number of an ink, which the plain one lacks. -/
def Ink.number? : Ink → Option String
  | .plain => none
  | .bold => some "1"
  | .dim => some "2"
  | .italic => some "3"
  | .green => some "32"
  | .yellow => some "33"
  | .blue => some "34"

/-- The code that begins an ink with a number. -/
def inkCode (number : String) : String := "\x1b[" ++ number ++ "m"

/-- The code that ends every ink. -/
def inkEnd : String := inkCode "0"

/-- A text in an ink. -/
structure Span where
  ink : Ink
  text : String
  deriving DecidableEq, Repr

/-- A span in the plain ink. -/
def plain (text : String) : Span := ⟨.plain, text⟩

/-- The span as it is written. -/
def Span.render (coloured : Bool) (s : Span) : String :=
  match s.ink.number? with
  | some number => if coloured then inkCode number ++ s.text ++ inkEnd else s.text
  | none => s.text

/-- Spans as they are written. -/
def renderSpans (coloured : Bool) (spans : List Span) : String :=
  String.join (spans.map (·.render coloured))

end ContractBindings.Text
