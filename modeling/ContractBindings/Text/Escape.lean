/-!
# Escapes

A backslash with what follows it stands for one character: a control character, or the one of an
octal number. A text with escapes can say where it ends.
-/

namespace ContractBindings.Text

/-- An octal digit. -/
def isOctal (c : Char) : Bool := '0' ≤ c && c ≤ '7'

/-- The character of octal digits, of which as many count as fit into a byte. -/
def ofOctal (digits : List Char) : Char :=
  Char.ofNat (digits.foldl (fun n c => n * 8 + (c.toNat - '0'.toNat)) 0 % 256)

/-- The character of an escape of one letter. -/
def control? : Char → Option Char
  | '\\' => some '\\'
  | 'a' => some '\x07'
  | 'b' => some '\x08'
  | 'e' => some '\x1b'
  | 'f' => some '\x0c'
  | 'n' => some '\n'
  | 'r' => some '\r'
  | 't' => some '\t'
  | 'v' => some '\x0b'
  | _ => none

/-- The character of an escape, after its backslash, and what is left. Nothing that is known leaves
the backslash. -/
def escape : List Char → Char × List Char
  | [] => ('\\', [])
  | c :: rest =>
    if isOctal c then
      let digits := c :: (rest.take 2).takeWhile isOctal
      (ofOctal digits, (c :: rest).drop digits.length)
    else
      match control? c with
      | some d => (d, rest)
      | none => ('\\', c :: rest)

/-- A text without its escapes, and whether the escape `\c` has ended it. An octal number may have
a zero more before it. -/
def unescapeFrom : Nat → List Char → List Char × Bool
  | 0, _ => ([], false)
  | _ + 1, [] => ([], false)
  | _ + 1, '\\' :: 'c' :: _ => ([], true)
  | fuel + 1, '\\' :: rest =>
    let rest :=
      match rest with
      | '0' :: d :: after => if isOctal d then d :: after else rest
      | rest => rest
    let (c, rest) := escape rest
    let (cs, ended) := unescapeFrom fuel rest
    (c :: cs, ended)
  | fuel + 1, c :: rest =>
    let (cs, ended) := unescapeFrom fuel rest
    (c :: cs, ended)

/-- A text without its escapes, and whether the escape `\c` has ended it. -/
def unescape (s : String) : String × Bool :=
  let (cs, ended) := unescapeFrom (s.length + 1) s.toList
  (String.ofList cs, ended)

end ContractBindings.Text
