import ContractBindings.Text.Octets
import ContractBindings.Utility.Lines
import ContractBindings.Text.Format

/-!
# Bytes in figures and letters

`od` shows bytes as numbers or characters, and `base64` and `base32` write them with letters that
any line can carry.
-/

namespace ContractBindings.Utility

open Process

/-! ## Showing bytes -/

/-- How a group of bytes is shown. -/
inductive ByteForm where
  /-- The name of a character, of which the highest bit does not count. -/
  | name
  /-- The character, or a sign for it. -/
  | character
  /-- A number with a sign. -/
  | signed
  /-- A number in a base. -/
  | natural (base : Nat)
  deriving DecidableEq

/-- A way to show the bytes of a line. -/
structure ByteView where
  form : ByteForm
  /-- The number of bytes in a group. -/
  size : Nat
  /-- The characters follow at the end of the line. -/
  withText : Bool := false

namespace ByteView

/-- The number of digits that every number of some bytes has in a base. -/
def digitsFor (base size : Nat) : Nat := (Nat.toDigits base (Nat.pow 2 (8 * size) - 1)).length

/-- The width of a group, without the blank before it. -/
def width (v : ByteView) : Nat :=
  match v.form with
  | .name | .character => 3
  | .signed => (Nat.toDigits 10 (Nat.pow 2 (8 * v.size - 1))).length + 1
  | .natural base => digitsFor base v.size

/-- The names of the characters that have no sign. -/
def characterNames : List String :=
  ["nul", "soh", "stx", "etx", "eot", "enq", "ack", "bel", "bs", "ht", "nl", "vt", "ff", "cr", "so",
    "si", "dle", "dc1", "dc2", "dc3", "dc4", "nak", "syn", "etb", "can", "em", "sub", "esc", "fs",
    "gs", "rs", "us", "sp"]

/-- The byte is a character with a sign of its own. -/
def isPlain (b : Nat) : Bool := 0x20 ≤ b && b < 0x7F

/-- A character, or a sign for it. -/
def sign (b : Nat) : String :=
  match b with
  | 0 => "\\0"
  | 7 => "\\a"
  | 8 => "\\b"
  | 9 => "\\t"
  | 10 => "\\n"
  | 11 => "\\v"
  | 12 => "\\f"
  | 13 => "\\r"
  | b =>
    if isPlain b then String.singleton (Char.ofNat b)
    else Text.Format.natural { width := 3, zeros := true } 8 false b

/-- A group of bytes, which is the number that it is if the first byte counts least. -/
def shown (v : ByteView) (value : Nat) : String :=
  match v.form with
  | .name =>
    let b := value % 128
    if b = 127 then "del" else (characterNames[b]?).getD (String.singleton (Char.ofNat b))
  | .character => sign value
  | .signed =>
    let range := Nat.pow 2 (8 * v.size)
    toString (if value < range / 2 then (value : Int) else (value : Int) - range)
  | .natural base =>
    if base = 10 then toString value
    else Text.Format.natural { width := v.width, zeros := true } base false value

/-- The value of a group of bytes. -/
def value (bigEndian : Bool) (bytes : List UInt8) : Nat :=
  (if bigEndian then bytes else bytes.reverse).foldl (fun n b => n * 256 + b.toNat) 0

/-- A list in groups of a size. -/
def groups (size : Nat) : Nat → List UInt8 → List (List UInt8)
  | 0, _ => []
  | _ + 1, [] => []
  | fuel + 1, bytes =>
    let own := bytes.take size
    (own ++ List.replicate (size - own.length) 0) :: groups size fuel (bytes.drop size)

/-- A line of bytes, in columns that line up with those of other views: `room` is the width that
the line has in all of them, without what follows it. -/
def line (v : ByteView) (bigEndian : Bool) (perLine room : Nat) (bytes : List UInt8) : String :=
  let fields := perLine / v.size
  let pad := room - v.width * fields
  let all := (groups v.size bytes.length bytes).zipIdx
  let columns := all.map fun (group, i) =>
    let left := fields - i
    padded (pad * left / fields - pad * (left - 1) / fields + v.width)
      (v.shown (value bigEndian group))
  let ending :=
    if v.withText then
      let missing := fields - all.length
      String.ofList (List.replicate (missing * v.width + pad * missing / fields) ' ') ++ "  >" ++
        String.ofList (bytes.map fun b =>
          if isPlain b.toNat then Char.ofNat b.toNat else '.') ++ "<"
    else ""
  String.join columns ++ ending ++ "\n"

/-- The size that a letter or digits after a form stand for, and what is left. Sizes that there are
no numbers of are refused. -/
def readSize (usual : Nat) (cs : List Char) : Except String (Nat × List Char) :=
  match cs with
  | 'C' :: rest => .ok (1, rest)
  | 'S' :: rest => .ok (2, rest)
  | 'I' :: rest => .ok (4, rest)
  | 'L' :: rest => .ok (8, rest)
  | cs =>
    let digits := cs.takeWhile Char.isDigit
    match natural? (String.ofList digits) with
    | none => .ok (usual, cs)
    | some n =>
      if n ∈ [1, 2, 4, 8] then .ok (n, cs.drop digits.length)
      else .error (toString n)

/-- Reads views, each a letter with perhaps a size. -/
def readAll (text : String) : Nat → List Char → Except String (List ByteView)
  | 0, _ => .ok []
  | _ + 1, [] => .ok []
  | fuel + 1, c :: rest =>
    let ending (cs : List Char) : Bool × List Char :=
      match cs with
      | 'z' :: cs => (true, cs)
      | cs => (false, cs)
    let more (form : ByteForm) (size : Nat) (rest : List Char) : Except String (List ByteView) :=
      let (withText, rest) := ending rest
      (readAll text fuel rest).map (⟨form, size, withText⟩ :: ·)
    let number (form : ByteForm) : Except String (List ByteView) :=
      match readSize 4 rest with
      | .ok (size, rest) => more form size rest
      | .error size =>
        .error ("invalid type string " ++ textQuoted text ++
          ";\nthis system doesn't provide a " ++ size ++ "-byte integral type")
    match c with
    | 'a' => more .name 1 rest
    | 'c' => more .character 1 rest
    | 'd' => number .signed
    | 'u' => number (.natural 10)
    | 'o' => number (.natural 8)
    | 'x' => number (.natural 16)
    | c =>
      .error ("invalid character '" ++ String.singleton c ++ "' in type string " ++
        textQuoted text)

end ByteView

/-- The views that letters of options stand for. -/
def viewLetters : List (String × String) :=
  [("a", "a"), ("b", "o1"), ("c", "c"), ("D", "u4"), ("d", "u2"), ("h", "x2"), ("x", "x2"),
    ("H", "x4"), ("X", "x4"), ("i", "d4"), ("I", "d8"), ("l", "d8"), ("L", "d8"), ("O", "o4"),
    ("B", "o2"), ("o", "o2"), ("s", "d2")]

/-- The lines of a text of bytes. A line that repeats the one before is left out, and a star stands
for all of those. -/
def dumpLines (address : Nat → String) (views : List ByteView) (bigEndian keepsAll : Bool)
    (perLine room : Nat) :
    Nat → Nat → Option (List UInt8) → Bool → List UInt8 → List String
  | 0, _, _, _, _ => []
  | _ + 1, _, _, _, [] => []
  | fuel + 1, offset, before, starred, bytes =>
    let own := bytes.take perLine
    let rest := bytes.drop perLine
    let next := dumpLines address views bigEndian keepsAll perLine room fuel
      (offset + perLine) (some own)
    if !keepsAll && before = some own && own.length = perLine then
      (if starred then [] else ["*\n"]) ++ next true rest
    else
      let start := address offset
      let blank := String.ofList (List.replicate start.length ' ')
      let lines := views.zipIdx.map fun (v, i) =>
        (if i = 0 then start else blank) ++ v.line bigEndian perLine room own
      lines ++ next false rest

/-- Shows bytes. -/
def od : Program := fun c => do
  let a ← understand c
    ([named 'A' "address-radix" .something, named 'j' "skip-bytes" .something,
      named 'N' "read-bytes" .something, named 'S' "strings" .something,
      named 't' "format" .something, named 'v' "output-duplicates", named 'w' "width" .perhaps,
      word "endian" .something, word "traditional"] ++
      viewLetters.map fun (name, _) => { letter := name.toList.head? })
  let number (key : String) : Act (Option Nat) := do
    match a.value? key with
    | none => return none
    | some text =>
      match amount? text with
      | some n => return some n
      | none =>
        let kind := if (text.toList.head?).any Char.isDigit then "invalid suffix in -"
          else "invalid -"
        c.complain (kind ++ key ++ " argument " ++ shellQuoted text)
        throw 1
  let radix := (a.value? "A").getD "o"
  let address : Nat → String ←
    match radix.toList with
    | 'o' :: _ => pure (Text.Format.natural { width := 7, zeros := true } 8 false)
    | 'd' :: _ => pure (Text.Format.natural { width := 7, zeros := true } 10 false)
    | 'x' :: _ => pure (Text.Format.natural { width := 6, zeros := true } 16 false)
    | 'n' :: _ => pure fun _ => ""
    | cs =>
      c.complain ("invalid output address radix '" ++ String.ofList (cs.take 1) ++
        "'; it must be one character from [doxn]")
      throw 1
  let skipped := (← number "j").getD 0
  let most ← number "N"
  let mut views : List ByteView := []
  for (key, value) in a.options do
    let text? := if key = "t" then some value else viewLetters.lookup key
    if let some text := text? then
      match ByteView.readAll text (text.length + 1) text.toList with
      | .ok more => views := views ++ more
      | .error complaint =>
        c.complain complaint
        throw 1
  if views.isEmpty then views := [⟨.natural 8, 2, false⟩]
  let least := views.foldl (fun n v => max n v.size) 1
  let perLine ←
    match a.value? "w" with
    | none => pure 16
    | some "" => pure 32
    | some text =>
      match amount? text with
      | some n =>
        if n ≠ 0 && n % least = 0 then pure n
        else
          c.complain ("warning: invalid width " ++ toString n ++ "; using " ++ toString least ++
            " instead")
          pure least
      | none =>
        c.complain ("invalid -w argument " ++ shellQuoted text)
        throw 1
  let room := views.foldl (fun n v => max n ((v.width + 1) * (perLine / v.size))) 0
  let mut status := 0
  let mut opened := false
  let mut bytes : List UInt8 := []
  for path in inputsOf a do
    match ← readInput path with
    | .ok text =>
      opened := true
      bytes := bytes ++ (Text.octetBytes text).toList
    | .error fault =>
      opened := opened || fault = .isDirectory
      c.complain (shellText path ++ ": " ++ fault.reason)
      status := 1
  if !opened then return status
  if bytes.length < skipped then
    c.complain "cannot skip past end of combined input"
    return 1
  let kept := bytes.drop skipped
  let kept := most.elim kept kept.take
  let bigEndian := (a.value? "endian").any ("big".startsWith ·)
  for line in dumpLines address views bigEndian (a.has "v") perLine room (kept.length + 1) skipped
      none false kept do
    Act.say line
  let last := address (skipped + kept.length)
  if !last.isEmpty then Act.sayLine last
  return status

/-! ## Letters for bytes -/

/-- An alphabet, of which each letter stands for some bits, and in which groups of letters stand for
whole bytes. -/
structure Alphabet where
  letters : Array Char
  /-- The bits of a letter. -/
  bits : Nat
  /-- The letters of a group. -/
  group : Nat

/-- The alphabet with 64 letters. -/
def Alphabet.of64 : Alphabet where
  letters :=
    "ABCDEFGHIJKLMNOPQRSTUVWXYZabcdefghijklmnopqrstuvwxyz0123456789+/".toList.toArray
  bits := 6
  group := 4

/-- The alphabet with 32 letters. -/
def Alphabet.of32 : Alphabet where
  letters := "ABCDEFGHIJKLMNOPQRSTUVWXYZ234567".toList.toArray
  bits := 5
  group := 8

namespace Alphabet

/-- The bytes that a group of letters stands for. -/
def bytesPerGroup (x : Alphabet) : Nat := x.bits * x.group / 8

/-- The letters of a group of bytes, which is filled up with signs for nothing. -/
def writeGroup (x : Alphabet) (bytes : List UInt8) : List Char :=
  let value := bytes.foldl (fun n b => n * 256 + b.toNat) 0
  let used := (8 * bytes.length + x.bits - 1) / x.bits
  let value := value * Nat.pow 2 (used * x.bits - 8 * bytes.length)
  let letters := (List.range used).map fun i =>
    x.letters.getD (value / Nat.pow 2 (x.bits * (used - 1 - i)) % Nat.pow 2 x.bits) '='
  letters ++ List.replicate (x.group - used) '='

/-- The letters of bytes. -/
def write (x : Alphabet) : Nat → List UInt8 → List Char
  | 0, _ => []
  | _ + 1, [] => []
  | fuel + 1, bytes =>
    x.writeGroup (bytes.take x.bytesPerGroup) ++ x.write fuel (bytes.drop x.bytesPerGroup)

/-- The bytes of a group of letters, and whether it is a whole group. A group that is none stands
for the bytes before its fault; one that is too short for the alphabet with long groups stands for
nothing. -/
def readGroup (x : Alphabet) (group : List Char) : List UInt8 × Bool :=
  let letters := group.takeWhile x.letters.contains
  let values := letters.map fun c => (x.letters.findIdx? (· = c)).getD 0
  let value := values.foldl (fun n v => n * Nat.pow 2 x.bits + v) 0
  let bits := x.bits * letters.length
  let count := bits / 8
  let value := value / Nat.pow 2 (bits % 8)
  let bytes := (List.range count).map fun i => (value / Nat.pow 256 (count - 1 - i) % 256).toUInt8
  let needed := (8 * count + x.bits - 1) / x.bits
  let isWhole := group.length = x.group && 0 < count && letters.length = needed &&
    (group.drop letters.length).all (· = '=')
  if x.group ≠ 4 && group.length < x.group then ([], false) else (bytes, isWhole)

/-- The bytes that letters stand for, and whether all letters make whole groups. -/
def read (x : Alphabet) : Nat → List Char → List UInt8 × Bool
  | 0, _ => ([], true)
  | _ + 1, [] => ([], true)
  | fuel + 1, cs =>
    match x.readGroup (cs.take x.group) with
    | (bytes, true) =>
      let (more, isWhole) := x.read fuel (cs.drop x.group)
      (bytes ++ more, isWhole)
    | (bytes, false) => (bytes, false)

/-- A text in lines of a width. -/
def lines (width : Nat) : Nat → List Char → List Char
  | 0, _ => []
  | _ + 1, [] => []
  | fuel + 1, cs => cs.take width ++ '\n' :: lines width fuel (cs.drop width)

end Alphabet

/-- Writes bytes in an alphabet, or reads them. -/
def lettered (x : Alphabet) : Program := fun c => do
  let a ← understand c
    [named 'd' "decode", named 'i' "ignore-garbage", named 'w' "wrap" .something]
  let width ←
    match a.value? "w" with
    | none => pure 76
    | some text =>
      match natural? text with
      | some n => pure n
      | none =>
        c.complain ("invalid wrap size: " ++ textQuoted text)
        throw 1
  if let some extra := a.operands[1]? then extraOperand c extra
  let path := a.operands.head?.getD "-"
  match ← readInput path with
  | .error .isDirectory =>
    c.complain ("read error: " ++ Disk.Fault.isDirectory.reason)
    return 1
  | .error fault =>
    c.complain (shellText path ++ ": " ++ fault.reason)
    return 1
  | .ok text =>
    if a.has "d" then
      let kept := text.toList.filter fun d =>
        d ≠ '\n' && (!a.has "i" || d = '=' || x.letters.contains d)
      let (bytes, isWhole) := x.read (kept.length + 1) kept
      Act.say (Text.octetsOf bytes.toByteArray)
      if isWhole then return 0
      c.complain "invalid input"
      return 1
    else
      let bytes := (Text.octetBytes text).toList
      let letters := x.write (bytes.length + 1) bytes
      let shown := if width = 0 then letters else Alphabet.lines width (letters.length + 1) letters
      Act.say (String.ofList shown)
      return 0

/-- Writes bytes with 64 letters, or reads them. -/
def base64 : Program := lettered .of64

/-- Writes bytes with 32 letters, or reads them. -/
def base32 : Program := lettered .of32

end ContractBindings.Utility
