import ContractBindings.Utility.Arguments
import ContractBindings.Utility.Mode
import ContractBindings.Text.Format

/-!
# Making and removing

The utilities that make files, directories and links, take them away, and change what they carry.
-/

namespace ContractBindings.Utility

open Process

/-! ## Directories -/

/-- The paths that a path begins with, part by part, the whole one last. -/
def startsOf (path : String) : List String :=
  let names := Disk.Path.names path
  let root := if Disk.Path.isAbsolute path then "/" else ""
  (List.range names.length).map fun n => root ++ String.intercalate "/" (names.take (n + 1))

/-- Makes a directory. -/
def makeDir (c : Call) (verbose : Bool) (path : String) : Act Nat := do
  match ← Act.edit (.createDir (Machine.pathText path)) with
  | .ok () =>
    if verbose then Act.sayLine (c.name ++ ": created directory " ++ shellQuoted path)
    return 0
  | .error fault =>
    c.complain ("cannot create directory " ++ shellQuoted path ++ ": " ++ fault.reason)
    return 1

/-- Makes directories that are missing, one in the other. -/
def makeDirsAlong (c : Call) (verbose : Bool) : List String → Act Nat
  | [] => return 0
  | path :: rest => do
    match ← Act.look path with
    | .ok (_, node) =>
      if node.isDir then makeDirsAlong c verbose rest
      else
        let fault : Disk.Fault := if rest.isEmpty then .alreadyExists else .notDirectory
        c.complain ("cannot create directory " ++ shellQuoted path ++ ": " ++ fault.reason)
        return 1
    | .error _ =>
      let status ← makeDir c verbose path
      if status = 0 then makeDirsAlong c verbose rest else return status

/-- Makes directories. -/
def mkdir : Program := fun c => do
  let a ← understand c
    ([named 'p' "parents", named 'v' "verbose", named 'm' "mode" .something] ++ letters "Z")
  if a.operands.isEmpty then missingOperand c
  if let some mode := a.value? "m" then
    if (Mode.read? mode).isNone then c.complain ("invalid mode " ++ shellQuoted mode); throw 1
  let verbose := a.has "v"
  forEach (fun path =>
    if a.has "p" && !path.isEmpty then makeDirsAlong c verbose (startsOf path)
    else makeDir c verbose path) a.operands

/-- Taking away an empty directory. -/
def removeEmpty (path : String) (d : Disk) : Except Disk.Fault Disk.Edit :=
  match d.walk path .stay with
  | .ok (.node place (.dir entries)) =>
    if (Disk.Path.parts path.toList).getLast? = some ['.'] then .error .invalid
    else if entries.isEmpty then .ok (.erase place)
    else .error .notEmpty
  | .ok (.node _ _) => .error .notDirectory
  | .ok (.vacant _ _) => .error .notFound
  | .error fault => .error fault

/-- Takes away empty directories. -/
def rmdir : Program := fun c => do
  let a ← understand c
    [named 'p' "parents", named 'v' "verbose", word "ignore-fail-on-non-empty"]
  if a.operands.isEmpty then missingOperand c
  let one (path : String) : Act Nat := do
    if a.has "v" then Act.sayLine (c.name ++ ": removing directory, " ++ shellQuoted path)
    match ← Act.change (removeEmpty (Machine.pathText path)) with
    | .ok () => return 0
    | .error .notEmpty =>
      if a.has "ignore-fail-on-non-empty" then return 0
      c.complain ("failed to remove " ++ shellQuoted path ++ ": " ++ Disk.Fault.notEmpty.reason)
      return 1
    | .error fault =>
      c.complain ("failed to remove " ++ shellQuoted path ++ ": " ++ fault.reason)
      return 1
  forEach (fun path => do
    if a.has "p" then
      (startsOf path).reverse.foldlM (fun status path => do
        if status = 0 then one path else return status) 0
    else one path) a.operands

/-! ## Removing -/

/-- What is removed of a node, the inside first, with whether it is a directory. -/
def removalsOf (path : String) : Nat → Disk.Node → List (String × Bool)
  | 0, _ => []
  | fuel + 1, node =>
    match node with
    | .dir entries =>
      entries.flatMap (fun e => removalsOf (path ++ "/" ++ Text.octets e.1) fuel e.2) ++
        [(path, true)]
    | _ => [(path, false)]

/-- Takes away files, and directories if it is told to. -/
def rm : Program := fun c => do
  let a ← understand c
    ([named 'f' "force", named 'r' "recursive", named 'd' "dir", named 'v' "verbose",
      word "no-preserve-root", word "preserve-root" .perhaps, word "one-file-system",
      word "interactive" .perhaps] ++ letters "RiI")
  if a.operands.isEmpty then
    if a.has "f" then return 0
    missingOperand c
  let whole := a.has "r" || a.has "R"
  let asks := a.last? ["i", "f", "interactive"] = some "i"
  let force := a.has "f" && !asks
  forEach (fun path => do
    let refuse (fault : Disk.Fault) : Act Nat := do
      c.complain ("cannot remove " ++ shellQuoted path ++ ": " ++ fault.reason)
      return 1
    let last := (Disk.Path.names path).getLast?
    match ← Act.look path .stay with
    | .error fault =>
      if force && (fault = .notFound || fault = .notDirectory) then return 0
      refuse fault
    | .ok (place, node) =>
      let remove : Act Nat := do
        if asks then
          let kind := if node.isDir then "directory" else
            match node with
            | .file bytes _ => if bytes.isEmpty then "regular empty file" else "regular file"
            | _ => "symbolic link"
          let _ ← Act.write 2 (c.name ++ ": remove " ++ kind ++ " " ++ shellQuoted path ++ "? ")
          return 0
        match ← Act.edit (.erase place) with
        | .error fault => refuse fault
        | .ok () =>
          if a.has "v" then
            for (path, isDir) in removalsOf path 10000 node do
              Act.sayLine ("removed " ++ (if isDir then "directory " else "") ++ shellQuoted path)
          return 0
      if !node.isDir then remove
      else if whole && (last = some "." || last = some "..") then
        c.complain ("refusing to remove '.' or '..' directory: skipping " ++ shellQuoted path)
        return 1
      else if whole && place.isEmpty then
        c.complain "it is dangerous to operate recursively on '/'"
        c.complain "use --no-preserve-root to override this failsafe"
        return 1
      else
        match whole, a.has "d", node with
        | true, _, .dir _ => remove
        | false, true, .dir [] => remove
        | false, true, .dir _ => refuse .notEmpty
        | false, false, _ => refuse .isDirectory
        | _, _, _ => refuse .notPermitted) a.operands

/-- Takes away one name of a file. -/
def unlink : Program := fun c => do
  let a ← understand c []
  match a.operands with
  | [] => missingOperand c
  | [path] =>
    let removal (d : Disk) : Except Disk.Fault Disk.Edit :=
      match d.walk (Machine.pathText path) .stay with
      | .ok (.node place node) =>
        if node.isDir then .error .isDirectory else .ok (.erase place)
      | .ok (.vacant _ _) => .error .notFound
      | .error fault => .error fault
    match ← Act.change removal with
    | .ok () => return 0
    | .error fault =>
      c.complain ("cannot unlink " ++ shellQuoted path ++ ": " ++ fault.reason)
      return 1
  | _ :: other :: _ => extraOperand c other

/-! ## Files -/

/-- The attributes of the file at a place are changed. -/
def changeAttributes (place : List String) (f : Disk.Attributes → Disk.Attributes) : Act Unit :=
  modify fun m =>
    match m.world.disk.root.get? place with
    | some (.file bytes attributes) => m.put place (.file bytes (f attributes))
    | _ => m

/-- The size that a text asks for, from an old one. -/
def sizeFrom? (old : Nat) (text : String) : Option Nat :=
  let (sign, digits) : Char × List Char :=
    match text.toList with
    | '+' :: rest => ('+', rest)
    | '-' :: rest => ('-', rest)
    | rest => ('=', rest)
  let number := digits.takeWhile Char.isDigit
  let unit? : Option Nat :=
    match digits.drop number.length with
    | [] => some 1
    | ['K'] | ['k'] => some 1024
    | ['M'] => some 1048576
    | _ => none
  match natural? (String.ofList number), unit? with
  | some n, some unit =>
    let n := n * unit
    some (if sign = '+' then old + n else if sign = '-' then old - n else n)
  | _, _ => none

/-- Cuts files to a size, or fills them up. -/
def truncate : Program := fun c => do
  let a ← understand c
    [named 's' "size" .something, named 'c' "no-create", named 'r' "reference" .something]
  match a.value? "s" with
  | none => c.misuse 1 "you must specify either '--size' or '--reference'"
  | some text =>
    if (sizeFrom? 0 text).isNone then
      c.complain ("Invalid number: " ++ textQuoted text)
      throw 1
    if a.operands.isEmpty then c.misuse 1 "missing file operand"
    forEach (fun path => do
      if a.has "c" then
        if let .error _ := ← Act.look path then return 0
      match ← Act.openPath { writes := true, creates := true } path with
      | .error fault =>
        c.complain ("cannot open " ++ shellQuoted path ++ " for writing: " ++ fault.reason)
        return 1
      | .ok index =>
        match (← get).world.opened[index]? with
        | some { channel := .file identity, .. } =>
          let old := (← get).world.fileBytes identity
          let size := (sizeFrom? old.size text).getD 0
          let filled := (List.replicate (size - old.size) (0 : UInt8)).toByteArray
          Act.setFileBytes identity ((old ++ filled).extract 0 size)
          return 0
        | _ => return 0) a.operands

/-- The kind of a mode as a listing shows it. -/
def modeText (mode : Nat) : String :=
  let part (n special : Nat) (small large : Char) : List Char :=
    [if n &&& 4 ≠ 0 then 'r' else '-', if n &&& 2 ≠ 0 then 'w' else '-',
      if special ≠ 0 then (if n &&& 1 ≠ 0 then small else large)
      else if n &&& 1 ≠ 0 then 'x' else '-']
  String.ofList (part (mode / 64 % 8) (mode &&& 0o4000) 's' 'S' ++
    part (mode / 8 % 8) (mode &&& 0o2000) 's' 'S' ++ part (mode % 8) (mode &&& 0o1000) 't' 'T')

/-- The files at a place and below it. -/
def placesBelow : Nat → List String → Disk.Node → List (List String)
  | 0, _, _ => []
  | fuel + 1, place, node =>
    place :: node.entries.flatMap fun e => placesBelow fuel (place ++ [e.1]) e.2

/-- Changes the modes of files. -/
def chmod : Program := fun c => do
  -- A mode that begins with a dash is no option.
  let isMode (arg : String) : Bool :=
    match arg.toList with
    | '-' :: rest =>
      !rest.isEmpty && (Mode.read? arg).isSome && rest.all (· ∈ "rwxXstugo,+=-".toList)
    | _ => false
  let given := c.args.find? isMode
  let args := match given with
    | some arg => arg :: "--" :: c.args.filter fun a => a != arg && a != "--"
    | none => c.args
  let switches : List Switch :=
    [named 'R' "recursive", named 'v' "verbose", named 'c' "changes", named 'f' "silent",
      word "quiet", word "reference" .something]
  let a ←
    match given with
    | some arg => do
      let a ← understand { c with args := args.drop 2 } switches
      pure { a with operands := arg :: a.operands }
    | none => understand c switches
  match a.operands with
  | [] => missingOperand c
  | [mode] => c.misuse 1 ("missing operand after " ++ textQuoted mode)
  | text :: paths =>
    match Mode.read? text with
    | none => c.misuse 1 ("invalid mode: " ++ textQuoted text)
    | some mode =>
      let mask := (← get).context.mask
      forEach (fun path => do
        match ← Act.look path with
        | .error fault =>
          if let .ok (_, .link _) := ← Act.look path .stay then
            if fault = .notFound then
              c.complain ("cannot operate on dangling symlink " ++ shellQuoted path)
              return 1
          if !a.has "f" then
            c.complain ("cannot access " ++ shellQuoted path ++ ": " ++ fault.reason)
          return 1
        | .ok (place, node) =>
          for p in if a.has "R" then placesBelow 10000 place node else [place] do
            if let some (.file _ attributes) := (← get).world.disk.root.get? p then
              let old := attributes.mode
              let new := mode.apply mask false old
              changeAttributes p fun attributes => { attributes with mode := new }
              if (a.has "v" || (a.has "c" && old ≠ new)) && p = place then
                let show' (n : Nat) : String :=
                  Text.Format.natural { width := 4, zeros := true } 8 false n ++
                    " (" ++ modeText n ++ ")"
                if old = new then
                  Act.sayLine ("mode of " ++ shellQuoted path ++ " retained as " ++ show' old)
                else
                  Act.sayLine ("mode of " ++ shellQuoted path ++ " changed from " ++ show' old ++
                    " to " ++ show' new)
          return 0) paths

/-! ## Links -/

/-- The path of a name in a directory. -/
def inDirectory (directory path : String) : String :=
  let name := baseName path
  if directory.endsWith "/" then directory ++ name else directory ++ "/" ++ name

/-- Makes links. -/
def ln : Program := fun c => do
  let a ← understand c
    [named 's' "symbolic", named 'f' "force", named 'n' "no-dereference", named 'v' "verbose",
      named 'T' "no-target-directory", named 't' "target-directory" .something,
      named 'r' "relative", named 'i' "interactive", named 'L' "logical", named 'P' "physical",
      named 'b' "backup"]
  let symbolic := a.has "s"
  let isDir (path : String) : Act Bool := do
    let follow := !a.has "n"
    match ← Act.look path (if follow then .follow else .stay) with
    | .ok (_, node) => return node.isDir
    | .error _ => return false
  let one (source path : String) : Act Nat := do
    let kind := if symbolic then "symbolic link " else "hard link "
    let refuse (fault : Disk.Fault) : Act Nat := do
      let toward :=
        if symbolic || fault = .alreadyExists then "" else " => " ++ shellQuoted source
      c.complain ("failed to create " ++ kind ++ shellQuoted path ++ toward ++ ": " ++ fault.reason)
      return 1
    let node? : Except Disk.Fault Disk.Node ←
      if symbolic then pure (.ok (.link (Machine.pathText source)))
      else
        match ← Act.look source .stay with
        | .ok (place, node) => do
          let _ ← Act.identityAt place
          pure (.ok (((← get).world.disk.root.get? place).getD node))
        | .error fault => pure (.error fault)
    match node? with
    | .error fault =>
      c.complain ("failed to access " ++ shellQuoted source ++ ": " ++ fault.reason)
      return 1
    | .ok node =>
      if node.isDir then
        c.complain (shellText source ++ ": hard link not allowed for directory")
        return 1
      let place? ← Act.onDisk (fun d p => d.walk p .stay) path
      let settle (place : List String) (name : String) : Act Nat := do
        match ← Act.edit (.make place name node) with
        | .ok () =>
          if a.has "v" then
            Act.sayLine (shellQuoted path ++ (if symbolic then " -> " else " => ") ++
              shellQuoted source)
          return 0
        | .error fault => refuse fault
      match place? with
      | .ok (.vacant place name) =>
        if path.endsWith "/" then refuse .notFound else settle place name
      | .ok (.node place _) =>
        if !a.has "f" then refuse .alreadyExists
        else
          let same ←
            match ← Act.look source .stay with
            | .ok (other, _) => pure (other == place)
            | .error _ => pure false
          if same then
            c.complain (shellQuoted source ++ " and " ++ shellQuoted path ++ " are the same file")
            return 1
          else if ((← get).world.disk.root.get? place).any (·.isDir) then
            c.complain (shellText path ++ ": cannot overwrite directory")
            return 1
          else settle place.dropLast (place.getLast?.getD "")
      | .error fault => refuse fault
  match a.value? "t", a.operands with
  | _, [] => c.misuse 1 "missing file operand"
  | some directory, sources => forEach (fun s => one s (inDirectory directory s)) sources
  | none, [source] => one source ("./" ++ baseName source)
  | none, [source, path] =>
    if !a.has "T" && (← isDir path) then one source (inDirectory path source)
    else one source path
  | none, operands =>
    let directory := operands.getLast?.getD ""
    match ← Act.look directory with
    | .ok (_, node) =>
      if node.isDir then forEach (fun s => one s (inDirectory directory s)) operands.dropLast
      else
        c.complain ("target " ++ shellQuoted directory ++ ": " ++ Disk.Fault.notDirectory.reason)
        return 1
    | .error fault =>
      c.complain ("target " ++ shellQuoted directory ++ ": " ++ fault.reason)
      return 1

end ContractBindings.Utility
