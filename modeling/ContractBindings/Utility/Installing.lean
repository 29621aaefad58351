import ContractBindings.Utility.Copying

/-!
# Installing

`install` copies files to where they are used, with a mode of their own, and makes directories.
-/

namespace ContractBindings.Utility

open Process

/-- The options of `install`. -/
def installSwitches : List Switch :=
  [named 'd' "directory", { letter := some 'D' }, named 'm' "mode" .something, named 'v' "verbose",
    named 't' "target-directory" .something, named 'T' "no-target-directory",
    named 'o' "owner" .something, named 'g' "group" .something, named 'C' "compare",
    named 'p' "preserve-timestamps", named 's' "strip", named 'S' "suffix" .something,
    { letter := some 'b' }, { letter := some 'c' }, word "backup" .perhaps,
    word "strip-program" .something]

/-- Makes the directories on the way to a path. -/
def makeWay (c : Call) (verbose : Bool) (path : String) : Act Nat := do
  for step in startsOf path do
    match ← Act.look step with
    | .ok (_, node) =>
      if !node.isDir then
        c.complain ("cannot create directory " ++ shellQuoted path ++ ": " ++
          (if step = path then Disk.Fault.alreadyExists else .notDirectory).reason)
        return 1
    | .error _ =>
      match ← Act.edit (.createDir (Machine.pathText step)) with
      | .ok () =>
        if verbose then Act.sayLine (c.name ++ ": creating directory " ++ shellQuoted step)
      | .error fault =>
        c.complain ("cannot create directory " ++ shellQuoted path ++ ": " ++ fault.reason)
        return 1
  return 0

/-- Copies a file to where it is used. -/
def installOne (c : Call) (a : Arguments) (mode : Mode) (source path : String) : Act Nat := do
  let refuse (text : String) : Act Nat := do
    c.complain text
    return 1
  match ← Act.look source with
  | .error fault => refuse ("cannot stat " ++ shellQuoted source ++ ": " ++ fault.reason)
  | .ok (place, node) =>
    if node.isDir then refuse ("omitting directory " ++ shellQuoted source)
    else
      let after ← Act.look path
      let go : Act Nat := do
        if a.has "b" || a.has "backup" then backUp path
        -- What was there goes, so that its other names keep what it held.
        if let .ok (_, .file ..) := after then let _ ← Act.edit (.remove (Machine.pathText path))
        let bytes :=
          match node with
          | .file bytes _ => bytes
          | _ => .empty
        let m : CopyManner := { call := c, arguments := a, whole := false, keepsLinks := false }
        let status ← m.copyFile bytes {} source path
        if let .ok (place, _) := ← Act.look path then
          changeAttributes place fun now => { now with mode := mode.apply 0 false 0 }
        return status
      match after with
      | .error _ => go
      | .ok (other, there) =>
        if areSame place other node there then refuse (CopyManner.sameText source path)
        else if there.isDir then
          refuse ("cannot overwrite directory " ++ shellQuoted path ++ " with non-directory")
        else go

/-- Copies files to where they are used, or makes directories. -/
def install : Program := fun c => do
  let a ← understand c installSwitches
  let verbose := a.has "v"
  let modeText := (a.value? "m").getD "755"
  if a.operands.isEmpty then c.misuse 1 "missing file operand"
  if a.has "d" then
    if (Mode.read? modeText).isNone then
      c.complain ("invalid mode " ++ shellQuoted modeText)
      throw 1
    return ← forEach (makeWay c verbose) a.operands
  let isDir (path : String) : Act Bool := do
    match ← Act.look path with
    | .ok (_, node) => return node.isDir
    | .error _ => return false
  let last := a.operands.getLast?.getD ""
  let pairs : List (String × String) ←
    match a.value? "t" with
    | some directory => do
      if a.has "D" then
        if (← makeWay c verbose directory) ≠ 0 then throw 1
      match ← Act.look directory with
      | .error fault =>
        c.complain ("failed to access " ++ shellQuoted directory ++ ": " ++ fault.reason)
        throw 1
      | .ok (_, node) =>
        if !node.isDir then
          c.complain ("failed to access " ++ shellQuoted directory ++ ": " ++
            Disk.Fault.notDirectory.reason)
          throw 1
      pure (a.operands.map fun s => (s, inDirectory directory s))
    | none =>
      match a.operands with
      | [source] => c.misuse 1 ("missing destination file operand after " ++ shellQuoted source)
      | [source, path] =>
        if !a.has "T" && (← isDir path) then pure [(source, inDirectory path source)]
        else pure [(source, path)]
      | operands => do
        if a.has "T" then c.misuse 1 ("extra operand " ++ shellQuoted ((operands[2]?).getD ""))
        match ← Act.look last with
        | .ok (_, node) =>
          if !node.isDir then
            c.complain ("target " ++ shellQuoted last ++ ": " ++ Disk.Fault.notDirectory.reason)
            throw 1
        | .error fault =>
          c.complain ("target " ++ shellQuoted last ++ ": " ++ fault.reason)
          throw 1
        pure (operands.dropLast.map fun s => (s, inDirectory last s))
  match Mode.read? modeText with
  | none =>
    c.complain ("invalid mode " ++ shellQuoted modeText)
    return 1
  | some mode =>
    for (letter, what) in [("o", "user"), ("g", "group")] do
      if let some name := a.value? letter then
        if name ≠ "root" && (natural? name).isNone then
          c.complain ("invalid " ++ what ++ " " ++ shellQuoted name)
          throw 1
    forEach (fun (source, path) => do
      if a.has "D" && (a.value? "t").isNone then
        let way := (startsOf path).dropLast.getLast?.getD "."
        if (← makeWay c verbose way) ≠ 0 then return 1
      installOne c a mode source path) pairs

end ContractBindings.Utility
