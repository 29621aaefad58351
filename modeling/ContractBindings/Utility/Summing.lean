import ContractBindings.Text.Digest
import ContractBindings.Utility.Dates

/-!
# Sums and digests

The utilities that say digests of files, and check files against digests that were said before.
-/

namespace ContractBindings.Utility

open Process

/-- A digest that files can have. -/
structure DigestKind where
  /-- The name in lines that begin with it. -/
  tag : String
  /-- The number of digits. -/
  width : Nat
  digest : ByteArray → List UInt8

/-- The digests, by the names of their utilities. -/
def digestKinds : List (String × DigestKind) :=
  [("md5", ⟨"MD5", 32, Text.Digest.md5⟩), ("sha1", ⟨"SHA1", 40, Text.Digest.sha1⟩),
    ("sha224", ⟨"SHA224", 56, Text.Digest.sha224⟩), ("sha256", ⟨"SHA256", 64, Text.Digest.sha256⟩),
    ("sha384", ⟨"SHA384", 96, Text.Digest.sha384⟩), ("sha512", ⟨"SHA512", 128, Text.Digest.sha512⟩)]

/-- A name in which a backslash and a line end are escaped, and whether there was any. -/
def escapedName (name : String) : String × Bool :=
  let escape (c : Char) : List Char :=
    match c with
    | '\\' => ['\\', '\\']
    | '\n' => ['\\', 'n']
    | '\r' => ['\\', 'r']
    | c => [c]
  let text := String.ofList (name.toList.flatMap escape)
  (text, text ≠ name)

/-- The line for a file. -/
def digestLine (a : Arguments) (kind : DigestKind) (tagged : Bool) (name text : String) : String :=
  let digits := Text.Digest.hex (kind.digest (Text.octetBytes text))
  let zero := a.has "z"
  let (shown, escaped) := if zero then (name, false) else escapedName name
  let start := if escaped then "\\" else ""
  let ending := if zero then "\x00" else "\n"
  if tagged then start ++ kind.tag ++ " (" ++ shown ++ ") = " ++ digits ++ ending
  else start ++ digits ++ (if a.has "b" then " *" else "  ") ++ shown ++ ending

/-- The digits and the name in a line that was said. -/
def readDigestLine? (kind : DigestKind) (line : String) : Option (String × String) :=
  let isHex (c : Char) : Bool :=
    c.isDigit || ('a' ≤ c && c ≤ 'f') || ('A' ≤ c && c ≤ 'F')
  let head := kind.tag ++ " ("
  if line.startsWith head then
    let rest := line.toList.drop head.length
    let digits := rest.reverse.takeWhile isHex
    let name := (rest.reverse.drop digits.length).drop 4
    if digits.length = kind.width then
      some (String.ofList digits.reverse, String.ofList name.reverse)
    else none
  else
    let cs := line.toList
    let digits := cs.takeWhile isHex
    match cs.drop digits.length with
    | ' ' :: mark :: name =>
      if digits.length = kind.width && (mark = ' ' || mark = '*') && !name.isEmpty then
        some (String.ofList digits, String.ofList name)
      else none
    | _ => none

/-- Checks files against the lines of a text. -/
def checkDigests (c : Call) (a : Arguments) (kind : DigestKind) (source text : String) :
    Act Nat := do
  let mut malformed := 0
  let mut unread := 0
  let mut wrong := 0
  let mut checked := 0
  let mut formed := 0
  let quiet := a.has "quiet"
  let silent := a.has "status"
  let mut number := 0
  for line in plainLines text do
    number := number + 1
    if !line.startsWith "#" then
      match readDigestLine? kind line with
      | none =>
        malformed := malformed + 1
        if a.has "w" then
          c.complain (shellText source ++ ": " ++ toString number ++ ": improperly formatted " ++
            kind.tag ++ " checksum line")
      | some (digits, name) =>
        formed := formed + 1
        match ← readInput name with
        | .error fault =>
          if !(a.has "ignore-missing" && fault = .notFound) then
            c.complain (shellText name ++ ": " ++ fault.reason)
            unread := unread + 1
            if !silent then Act.sayLine (name ++ ": FAILED open or read")
        | .ok text =>
          let own := Text.Digest.hex (kind.digest (Text.octetBytes text))
          if own = digits.toLower then
            checked := checked + 1
            if !silent && !quiet then Act.sayLine (name ++ ": OK")
          else
            wrong := wrong + 1
            if !silent then Act.sayLine (name ++ ": FAILED")
  if formed = 0 then
    c.complain (shellText source ++ ": no properly formatted checksum lines found")
    return 1
  if !silent then
    let warn (count : Nat) (one many : String) : Act Unit := do
      if count ≠ 0 then
        c.complain ("WARNING: " ++ toString count ++ if count = 1 then one else many)
    warn malformed " line is improperly formatted" " lines are improperly formatted"
    warn unread " listed file could not be read" " listed files could not be read"
    warn wrong " computed checksum did NOT match" " computed checksums did NOT match"
    if a.has "ignore-missing" && checked = 0 && wrong = 0 then
      c.complain (shellText source ++ ": no file was verified")
  let nothing := a.has "ignore-missing" && checked = 0
  return if wrong ≠ 0 || unread ≠ 0 || nothing || (a.has "strict" && malformed ≠ 0) then 1 else 0

/-- The options of the utilities for digests. -/
def digestSwitches : List Switch :=
  [named 'b' "binary", named 'c' "check", word "tag", named 't' "text", named 'z' "zero",
    word "ignore-missing", word "quiet", word "status", word "strict", named 'w' "warn"]

/-- Says digests of files, or checks them. -/
def digestProgram (kind : DigestKind) : Program := fun c => do
  let a ← understand c digestSwitches
  if a.has "c" then
    if a.has "tag" then c.misuse 1 "the --tag option is meaningless when verifying checksums"
    forInputs c (inputsOf a) inputComplaint (checkDigests c a kind)
  else
    for option in ["ignore-missing", "status", "warn", "quiet", "strict"] do
      if a.has (if option = "warn" then "w" else option) then
        c.misuse 1 ("the --" ++ option ++ " option is meaningful only when verifying checksums")
    forInputs c (inputsOf a) inputComplaint fun name text => do
      Act.say (digestLine a kind (a.has "tag") name text)
      return 0

/-- Says checks of files, with their sizes. -/
def cksum : Program := fun c => do
  let a ← understand c
    (digestSwitches ++ [named 'a' "algorithm" .something, word "untagged", word "raw",
      named 'l' "length" .something, word "base64", word "debug"])
  let sized (check : String) (size name : String) : Act Nat := do
    Act.sayLine (check ++ " " ++ size ++ if a.operands.isEmpty then "" else " " ++ name)
    return 0
  let name := (a.value? "a").getD "crc"
  match name, digestKinds.lookup name with
  | _, some kind =>
    if a.has "c" then forInputs c (inputsOf a) inputComplaint (checkDigests c a kind)
    else
      forInputs c (inputsOf a) inputComplaint fun name text => do
        Act.say (digestLine a kind (!a.has "untagged") name text)
        return 0
  | "crc", none =>
    forInputs c (inputsOf a) inputComplaint fun name text =>
      sized (toString (Text.Digest.crc (Text.octetBytes text)).toNat) (toString text.length) name
  | name, none =>
    unknownValue c name "--algorithm"
      (["bsd", "sysv", "crc", "md5", "sha1", "sha224", "sha256", "sha384", "sha512", "blake2b",
        "sm3"].map fun n => [n])

/-- Says sums of files, with their blocks. -/
def sum : Program := fun c => do
  let a ← understand c [{ letter := some 'r' }, named 's' "sysv"]
  forInputs c (inputsOf a) inputComplaint fun name text => do
    let bytes := Text.octetBytes text
    let shown := if a.operands.isEmpty then "" else " " ++ name
    if a.last? ["r", "s"] = some "s" then
      Act.sayLine (toString (Text.Digest.plainSum bytes) ++ " " ++
        toString ((bytes.size + 511) / 512) ++ shown)
    else
      let check := toString (Text.Digest.rotatingSum bytes)
      let zeros := String.ofList (List.replicate (5 - check.length) '0')
      let blocks := (bytes.size + 1023) / 1024
      Act.sayLine (zeros ++ check ++ " " ++ padded 5 (toString blocks) ++ shown)
    return 0

end ContractBindings.Utility
