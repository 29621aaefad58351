import ContractBindings.Json.Value
import ContractBindings.Number.Shortest

/-!
# Writing JSON

Two layouts of a value: `compact` without any blank, and `pretty` with one element or member a
line and two more spaces of indentation at each level. An empty array or object has no inner line
in either. Text keeps every character but quotes, backslashes and control characters.
-/

namespace ContractBindings.Json

/-- The two hexadecimal digits of a control character. -/
def hexPair (n : Nat) : List Char :=
  [Nat.digitChar (n / 16), Nat.digitChar (n % 16)]

/-- How one character of a text is written. -/
def escape (c : Char) : List Char :=
  match c with
  | '"' => ['\\', '"']
  | '\\' => ['\\', '\\']
  | '\n' => ['\\', 'n']
  | '\r' => ['\\', 'r']
  | '\t' => ['\\', 't']
  | '\x08' => ['\\', 'b']
  | '\x0c' => ['\\', 'f']
  | _ => if c.toNat < 0x20 then ['\\', 'u', '0', '0'] ++ hexPair c.toNat else [c]

/-- A text between its quotes. -/
def writtenText (s : String) : List Char :=
  '"' :: s.toList.flatMap escape ++ ['"']

/-- An integer in decimal. -/
def writtenInteger (n : Int) : List Char :=
  if n < 0 then '-' :: Nat.toDigits 10 n.natAbs else Nat.toDigits 10 n.natAbs

/-- A number. -/
def Number.written : Number → List Char
  | .integer n => writtenInteger n
  | .binary64 x => x.text

/-- A new line with the indentation of a level. -/
def newLine (level : Nat) : List Char :=
  '\n' :: List.replicate (2 * level) ' '

mutual

/-- The compact layout. -/
def compactChars : Json → List Char
  | .null => ['n', 'u', 'l', 'l']
  | .bool true => ['t', 'r', 'u', 'e']
  | .bool false => ['f', 'a', 'l', 's', 'e']
  | .number n => n.written
  | .text s => writtenText s
  | .array [] => ['[', ']']
  | .array (v :: rest) => '[' :: compactChars v ++ compactElements rest
  | .object [] => ['{', '}']
  | .object ((k, v) :: rest) => '{' :: writtenText k ++ ':' :: compactChars v ++ compactMembers rest

/-- The elements after the first, and the closing bracket. -/
def compactElements : List Json → List Char
  | [] => [']']
  | v :: rest => ',' :: compactChars v ++ compactElements rest

/-- The members after the first, and the closing brace. -/
def compactMembers : List (String × Json) → List Char
  | [] => ['}']
  | (k, v) :: rest => ',' :: writtenText k ++ ':' :: compactChars v ++ compactMembers rest

end

mutual

/-- The pretty layout of a value that starts at indentation level `level`. -/
def prettyChars (level : Nat) : Json → List Char
  | .null => ['n', 'u', 'l', 'l']
  | .bool true => ['t', 'r', 'u', 'e']
  | .bool false => ['f', 'a', 'l', 's', 'e']
  | .number n => n.written
  | .text s => writtenText s
  | .array [] => ['[', ']']
  | .array (v :: rest) =>
    '[' :: newLine (level + 1) ++ prettyChars (level + 1) v ++ prettyElements level rest
  | .object [] => ['{', '}']
  | .object ((k, v) :: rest) =>
    '{' :: newLine (level + 1) ++ writtenText k ++ [':', ' '] ++ prettyChars (level + 1) v ++
      prettyMembers level rest

/-- The elements after the first, and the closing bracket. -/
def prettyElements (level : Nat) : List Json → List Char
  | [] => newLine level ++ [']']
  | v :: rest =>
    ',' :: newLine (level + 1) ++ prettyChars (level + 1) v ++ prettyElements level rest

/-- The members after the first, and the closing brace. -/
def prettyMembers (level : Nat) : List (String × Json) → List Char
  | [] => newLine level ++ ['}']
  | (k, v) :: rest =>
    ',' :: newLine (level + 1) ++ writtenText k ++ [':', ' '] ++ prettyChars (level + 1) v ++
      prettyMembers level rest

end

/-- The compact layout as text. -/
def compact (v : Json) : String := String.ofList v.compactChars

/-- The pretty layout as text. -/
def pretty (v : Json) : String := String.ofList (v.prettyChars 0)

end ContractBindings.Json
