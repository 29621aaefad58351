/-!
# Screaming snake case

The case of constants: ASCII letters in upper case and one underscore between words. Words are
parted by separators, or else where a change of case says so (`startsWord`).
-/

namespace ContractBindings.Naming

/-- Parts words, and is no part of any. -/
def isSeparator (c : Char) : Bool :=
  c == '_' || c == '-' || c == '.' || c == ' '

/-- A new word starts at `c` between its neighbours: at an upper-case letter after a lower-case
letter or a digit, and at the last upper-case letter of several if a lower-case letter follows, so
that `HTTPServer` has two words. -/
def startsWord (before c : Char) (after : Option Char) : Bool :=
  c.isUpper &&
    (before.isLower || before.isDigit || (before.isUpper && after.any Char.isLower))

/-- The characters after `before`, which is no separator; `parted` says that separators have
followed it. Separators at the end leave nothing. -/
def snakeAfter (before : Char) (parted : Bool) : List Char → List Char
  | [] => []
  | c :: rest =>
    if isSeparator c then snakeAfter before true rest
    else if parted || startsWord before c rest.head? then
      '_' :: c.toUpper :: snakeAfter c false rest
    else c.toUpper :: snakeAfter c false rest

/-- The characters in screaming snake case. -/
def snake (chars : List Char) : List Char :=
  match chars.dropWhile isSeparator with
  | [] => []
  | c :: rest => c.toUpper :: snakeAfter c false rest

/-- The text in screaming snake case. -/
def screamingSnake (s : String) : String :=
  String.ofList (snake s.toList)

end ContractBindings.Naming
