import ContractBindings.Utility.Lines

/-!
# Paths as arguments

The utilities that take paths apart, and those that say where they lead.
-/

namespace ContractBindings.Utility

open Process
open Disk (Fault Node)

/-- A path without a part that it ends in, unless that is all of it. -/
def withoutEnd (ending path : String) : String :=
  if path ≠ ending && path.endsWith ending then
    String.ofList (path.toList.take (path.length - ending.length))
  else path

/-- Says the last parts of paths. -/
def basename : Program := fun c => do
  let a ← understand c
    [named 'a' "multiple", named 's' "suffix" .something, named 'z' "zero"] 1 false
  let ending := if a.has "z" then "\x00" else "\n"
  let many := a.has "a" || a.has "s"
  match a.operands with
  | [] => missingOperand c
  | first :: rest =>
    if many then
      for path in a.operands do
        Act.say (withoutEnd ((a.value? "s").getD "") (baseName path) ++ ending)
    else
      if let some extra := rest[1]? then extraOperand c extra
      Act.say (withoutEnd (rest.head?.getD "") (baseName first) ++ ending)
    return 0

/-- A path without its last part. -/
def directoryName (path : String) : String :=
  let isSlash (c : Char) : Bool := c = '/'
  let kept := ((path.toList.reverse.dropWhile isSlash).dropWhile (!isSlash ·)).dropWhile isSlash
  if !kept.isEmpty then String.ofList kept.reverse
  else if path.toList.head? = some '/' then "/"
  else "."

/-- Says paths without their last parts. -/
def dirname : Program := fun c => do
  let a ← understand c [named 'z' "zero"]
  if a.operands.isEmpty then missingOperand c
  for path in a.operands do
    Act.say (directoryName path ++ if a.has "z" then "\x00" else "\n")
  return 0

/-- Says in which directory it runs. -/
def pwd : Program := fun c => do
  let a ← understand c [named 'L' "logical", named 'P' "physical"]
  if !a.operands.isEmpty then c.complain "ignoring non-option arguments"
  Act.sayLine (← get).workPath
  return 0

/-- How much of a path must be there. -/
inductive Presence where
  | all
  | allButLast
  | nothing
  deriving DecidableEq

/-- The path of a place. -/
def pathOf (place : List String) : String := Text.octets ("/" ++ String.intercalate "/" place)

/-- The path of names below a place of which nothing needs to be there. -/
def loosePath (place : List String) : List String → List String
  | [] => place
  | name :: rest =>
    if name = "" || name = "." then loosePath place rest
    else if name = ".." then loosePath place.dropLast rest
    else loosePath (place ++ [name]) rest

/-- The path without links to which a path leads. -/
def realPath (presence : Presence) (path : String) : Act (Except Fault String) := do
  let d := (← get).disk
  match d.walk (Machine.pathText path) .follow with
  | .ok (.node place _) => return .ok (pathOf place)
  | .ok (.vacant place name) =>
    return if presence = .all then .error .notFound else .ok (pathOf (place ++ [name]))
  | .error fault =>
    let bare := withoutEnd "/" path
    if presence = .allButLast && fault = .notFound && bare ≠ path then
      match d.walk (Machine.pathText bare) .follow with
      | .ok (.vacant place name) => return .ok (pathOf (place ++ [name]))
      | _ => return .error fault
    if presence ≠ .nothing || path.isEmpty then return .error fault
    let names := Disk.Path.names (Machine.pathText path)
    let start := if Disk.Path.isAbsolute path then [] else d.here
    return .ok (pathOf (loosePath start names))

/-- Which parts of a path must be there, as options say. -/
def presenceOf (a : Arguments) (usual : Presence) : Presence :=
  match a.last? ["e", "m", "f"] with
  | some "e" => .all
  | some "m" => .nothing
  | some _ => .allButLast
  | none => usual

/-- Says where links lead. -/
def readlink : Program := fun c => do
  let a ← understand c
    [named 'f' "canonicalize", named 'e' "canonicalize-existing", named 'm' "canonicalize-missing",
      named 'n' "no-newline", named 'q' "quiet", named 's' "silent", named 'v' "verbose",
      named 'z' "zero"]
  if a.operands.isEmpty then missingOperand c
  let ending :=
    if a.has "n" && a.operands.length = 1 then "" else if a.has "z" then "\x00" else "\n"
  let canonical := a.has "f" || a.has "e" || a.has "m"
  forEach (fun path => do
    let found : Except Fault String ←
      if canonical then realPath (presenceOf a .allButLast) path
      else do
        match ← Act.look path .stay with
        | .ok (_, .link target) => pure (.ok (Text.octets target))
        | .ok _ => pure (.error .invalid)
        | .error fault => pure (.error fault)
    match found with
    | .ok text =>
      Act.say (text ++ ending)
      return 0
    | .error fault =>
      if a.has "v" then c.complain (shellText path ++ ": " ++ fault.reason)
      return 1) a.operands

/-- A path from one directory to a place. -/
def relativePath (base place : List String) : String :=
  let rec skip : List String → List String → List String × List String
    | a :: as, b :: bs => if a = b then skip as bs else (a :: as, b :: bs)
    | as, bs => (as, bs)
  let (up, down) := skip base place
  match up.map (fun _ => "..") ++ down with
  | [] => "."
  | names => String.intercalate "/" names

/-- Says the paths without links to which paths lead. -/
def realpath : Program := fun c => do
  let a ← understand c
    [named 'e' "canonicalize-existing", named 'm' "canonicalize-missing", named 'L' "logical",
      named 'P' "physical", named 'q' "quiet", named 's' "strip", word "no-symlinks",
      word "relative-to" .something, word "relative-base" .something, named 'z' "zero"]
  if a.operands.isEmpty then missingOperand c
  let base ←
    match a.value? "relative-to" with
    | none => pure none
    | some path =>
      match ← realPath (presenceOf a .allButLast) path with
      | .ok path => pure (some (Disk.Path.names path))
      | .error fault =>
        c.complain (shellText path ++ ": " ++ fault.reason)
        throw 1
  forEach (fun path => do
    let found : Except Fault String ←
      if a.has "s" || a.has "no-symlinks" then do
        let here := (← get).context.here
        let start := if Disk.Path.isAbsolute path then [] else here
        pure (.ok (pathOf (loosePath start (Disk.Path.names (Machine.pathText path)))))
      else realPath (presenceOf a .allButLast) path
    match found with
    | .ok path =>
      let shown := base.elim path fun base => relativePath base (Disk.Path.names path)
      Act.say (shown ++ if a.has "z" then "\x00" else "\n")
      return 0
    | .error fault =>
      if !a.has "q" then c.complain (shellText path ++ ": " ++ fault.reason)
      return 1) a.operands

end ContractBindings.Utility
