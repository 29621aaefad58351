import ContractBindings.Utility.Lines

/-!
# Copying by blocks

`dd` copies bytes from its input to its output, and tells how many blocks that were.
-/

namespace ContractBindings.Utility

open Process


/-- A number with units, as `dd` reads it: factors are joined by `x`. -/
def blockNumber? (text : String) : Option Nat :=
  let factor? (part : String) : Option Nat :=
    let cs := part.toList
    let digits := cs.takeWhile Char.isDigit
    match natural? (String.ofList digits), String.ofList (cs.drop digits.length) with
    | some n, "c" => some n
    | some n, "w" => some (n * 2)
    | some n, "B" => some n
    | _, _ => if digits.isEmpty then none else amount? part
  (text.splitOn "x").foldl (fun n? part => n?.bind fun n => (factor? part).map (n * ·)) (some 1)

/-- A count of bytes in larger units, or nothing if it is small. -/
def sizeNotes (bytes : Nat) : List String :=
  let note (base : Nat) (units : List String) : Option String :=
    if bytes < base then none
    else
      let rec scale : Nat → List String → Option (Nat × String)
        | _, [] => none
        | size, [unit] => some (size, unit)
        | size, unit :: rest =>
          if bytes < size * base then some (size, unit) else scale (size * base) rest
      (scale base units).map fun (size, unit) =>
        let tenths := (bytes * 20 + size) / (size * 2)
        let half := bytes * 10 / size
        let tenths := if (bytes * 10) % size * 2 = size && half % 2 = 0 then half else tenths
        if tenths < 100 then toString (tenths / 10) ++ "." ++ toString (tenths % 10) ++ " " ++ unit
        else toString ((bytes * 2 + size) / (size * 2)) ++ " " ++ unit
  (note 1000 ["kB", "MB", "GB"]).toList ++ (note 1024 ["KiB", "MiB", "GiB"]).toList

/-- Exchanges the bytes of each pair. -/
def swapPairs : List UInt8 → List UInt8
  | a :: b :: rest => b :: a :: swapPairs rest
  | rest => rest

/-- The conversions that `dd` knows. -/
def conversions : List String :=
  ["ascii", "ebcdic", "ibm", "block", "unblock", "lcase", "ucase", "sparse", "swab", "sync", "excl",
    "nocreat", "notrunc", "noerror", "fdatasync", "fsync"]

/-- The operands that `dd` knows. -/
def blockOperands : List String :=
  ["if", "of", "bs", "ibs", "obs", "cbs", "count", "skip", "seek", "iseek", "oseek", "conv",
    "status", "iflag", "oflag"]

/-- Copies blocks of bytes. -/
def dd : Program := fun c => do
  let a ← understand c []
  let mut given : List (String × String) := []
  for operand in a.operands do
    let name := String.ofList (operand.toList.takeWhile (· ≠ '='))
    if !operand.contains '=' || name ∉ blockOperands then
      c.misuse 1 ("unrecognized operand " ++ textQuoted operand)
    let value := String.ofList (operand.toList.drop (name.length + 1))
    if name ∈ ["bs", "ibs", "obs", "cbs", "count", "skip", "seek", "iseek", "oseek"] then
      let isBlock := name ∈ ["bs", "ibs", "obs", "cbs"]
      match blockNumber? value with
      | some n =>
        if n = 0 && isBlock then c.complain ("invalid number: " ++ textQuoted value); throw 1
      | none =>
        c.complain ("invalid number: " ++ textQuoted value)
        throw 1
    if name = "conv" then
      for conversion in value.splitOn "," do
        if conversion ∉ conversions then
          c.misuse 1 ("invalid conversion: " ++ textQuoted conversion)
    if name = "status" && value ∉ ["none", "noxfer", "progress"] then
      c.misuse 1 ("invalid status level: " ++ textQuoted value)
    given := (name, value) :: given
  let value? (name : String) : Option String := given.lookup name
  let number (name : String) : Option Nat := (value? name).bind blockNumber?
  let input := ((number "bs").or (number "ibs")).getD 512
  let output := ((number "bs").or (number "obs")).getD 512
  let converts := (value? "conv").elim [] (·.splitOn ",")
  let source ←
    match value? "if" with
    | none => pure 0
    | some path =>
      match ← Act.openPath .reading path with
      | .ok index =>
        Act.setStream 0 (some index)
        pure 0
      | .error fault =>
        c.complain ("failed to open " ++ shellQuoted path ++ ": " ++ fault.reason)
        throw 1
  let seek := ((number "seek").or (number "oseek")).getD 0 * output
  let outputName := (value? "of").getD "standard output"
  if let some path := value? "of" then
    let mode : OpenMode :=
      { writes := true, creates := !converts.contains "nocreat",
        truncates := !converts.contains "notrunc" && seek = 0 }
    match ← Act.openPath mode path with
    | .ok index => Act.setStream 1 (some index)
    | .error fault =>
      c.complain ("failed to open " ++ shellQuoted path ++ ": " ++ fault.reason)
      throw 1
  if let some (index, f) := ← Act.openFile? 1 then
    Act.setOpenFile index { f with offset := f.offset + seek }
    if seek ≠ 0 && !converts.contains "notrunc" then
      if let .file identity := f.channel then
        let old := (← get).world.fileBytes identity
        let gap := (List.replicate (seek - old.size) (0 : UInt8)).toByteArray
        Act.setFileBytes identity ((old ++ gap).extract 0 seek)
  let count := number "count"
  let skipped := ((number "skip").or (number "iseek")).getD 0 * input
  let isEndless :=
    match (← Act.openFile? 0).map (·.2.channel) with
    | some (.device .zero) | some (.device .full) => true
    | _ => false
  let all : ByteArray ←
    if isEndless then
      pure (List.replicate (count.getD 1 * input + skipped) (0 : UInt8)).toByteArray
    else
      match ← Act.unread source with
      | .ok bytes => pure bytes
      | .error fault =>
        c.complain ("error reading " ++ shellQuoted ((value? "if").getD "standard input") ++ ": " ++
          fault.reason)
        pure .empty
  if all.size < skipped then
    c.complain (shellText ((value? "if").getD "standard input") ++
      ": cannot skip to specified offset")
  let rest := all.extract skipped all.size
  let wanted := count.elim rest.size (· * input)
  let taken := rest.extract 0 wanted
  Act.skip source (min all.size skipped + taken.size)
  let full := taken.size / input
  let partly := if taken.size % input = 0 then 0 else 1
  let padded := if converts.contains "sync" then (full + partly) * input - taken.size else 0
  let bytes := taken.toList ++ List.replicate padded (0 : UInt8)
  let convert (byte : UInt8) : UInt8 :=
    let character := Char.ofNat byte.toNat
    if converts.contains "ucase" then character.toUpper.toNat.toUInt8
    else if converts.contains "lcase" then character.toLower.toNat.toUInt8
    else byte
  let bytes := if converts.contains "swab" then swapPairs bytes else bytes
  let result := (bytes.map convert).toByteArray
  let written ← Act.writeBytes 1 result
  let status ←
    match written with
    | .ok () => pure 0
    | .error fault =>
      c.complain ("error writing " ++ shellQuoted outputName ++ ": " ++ fault.reason)
      pure 1
  let size := if status = 0 then result.size else 0
  let same := (number "bs").isSome && padded = 0
  let fullOut := if same && status = 0 then full else size / output
  let partOut :=
    if status ≠ 0 then 0 else if same then partly else if size % output = 0 then 0 else 1
  if value? "status" ≠ some "none" then
    Act.complain (toString full ++ "+" ++ toString partly ++ " records in")
    Act.complain (toString fullOut ++ "+" ++ toString partOut ++ " records out")
    if value? "status" ≠ some "noxfer" then
      let notes := sizeNotes size
      let noted := if notes.isEmpty then "" else " (" ++ String.intercalate ", " notes ++ ")"
      Act.complain (toString size ++ (if size = 1 then " byte" else " bytes") ++ noted ++
        " copied, 0.0001 s, 1.0 MB/s")
  return status

end ContractBindings.Utility
