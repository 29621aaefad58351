/-!
# Quoting in complaints

How utilities show names and texts when they complain. The texts are octets, of which only those of
ASCII are printable.

* `shellQuoted`: as a shell reads it, always in quotes.
* `shellText`: as a shell reads it, in quotes only if it needs them.
* `textQuoted`: between single quotes, with backslashes.
-/

namespace ContractBindings.Utility

/-- The letter of a control character that has one. -/
def controlLetter? (c : Char) : Option Char :=
  match c with
  | '\x07' => some 'a'
  | '\x08' => some 'b'
  | '\t' => some 't'
  | '\n' => some 'n'
  | '\x0b' => some 'v'
  | '\x0c' => some 'f'
  | '\r' => some 'r'
  | _ => none

/-- A character that is shown as it is. -/
def isShown (c : Char) : Bool := ' ' ≤ c && c ≤ '~'

/-- What stands for a character that is not shown, after a backslash. -/
def escapeText (c : Char) : List Char :=
  match controlLetter? c with
  | some letter => ['\\', letter]
  | none =>
    let digit (n : Nat) : Char := Char.ofNat ('0'.toNat + n % 8)
    ['\\', digit (c.toNat / 64), digit (c.toNat / 8), digit c.toNat]

/-- The character means the same in single and in double quotes. -/
def isPlainInBoth (c : Char) : Bool :=
  c.isAlphanum || c ∈ [' ', '#', '~', '\'', '%', '+', ',', '-', '.', '/', ':', ']', '_', '\x7b',
    '\x7d']

/-- The inside of single quotes, where `escaped` tells that escapes have just been written. -/
def shellInside (escaped : Bool) : List Char → List Char
  | [] => []
  | '\'' :: rest => '\'' :: '\\' :: '\'' :: '\'' :: shellInside false rest
  | c :: rest =>
    if isShown c then (if escaped then ['\'', '\''] else []) ++ c :: shellInside false rest
    else (if escaped then [] else ['\'', '$', '\'']) ++ escapeText c ++ shellInside true rest

/-- A text in quotes, as a shell reads it. -/
def shellQuoted (text : String) : String :=
  let cs := text.toList
  if cs.contains '\'' && cs.all isPlainInBoth then "\"" ++ text ++ "\""
  else "'" ++ String.ofList (shellInside false cs) ++ "'"

/-- A character makes quotes necessary, at the start of a text or elsewhere. -/
def needsQuotes (isFirst : Bool) (c : Char) : Bool :=
  !isShown c || (isFirst && (c = '#' || c = '~')) ||
    c ∈ [' ', '!', '"', '$', '&', '(', ')', '*', ';', '<', '=', '>', '?', '[', '\\', '^',
      '\x60', '|', '\'', ':']

/-- A text as a shell reads it, in quotes if it needs them. -/
def shellText (text : String) : String :=
  match text.toList with
  | [] => "''"
  | ['\x7b'] => "'\x7b'"
  | ['\x7d'] => "'\x7d'"
  | c :: rest =>
    if needsQuotes true c || rest.any (needsQuotes false) then shellQuoted text else text

/-- A text in single quotes, with backslashes. -/
def textQuoted (text : String) : String :=
  "'" ++ String.ofList (text.toList.flatMap fun c =>
    if c = '\'' || c = '\\' then ['\\', c] else if isShown c then [c] else escapeText c) ++ "'"

end ContractBindings.Utility
