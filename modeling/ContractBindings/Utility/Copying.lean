import ContractBindings.Utility.Making

/-!
# Copying and moving

The utilities that bring files and directories to another path. Several go into a directory, and one
goes into a directory that is there, or else gets the path as its new name.
-/

namespace ContractBindings.Utility

open Process

/-! ## Targets -/

/-- Brings each source to a path of its own: into a directory, or to the last operand. -/
def bring (c : Call) (a : Arguments) (one : String → String → Act Nat) : Act Nat := do
  let isDir (path : String) : Act Bool := do
    match ← Act.look path with
    | .ok (_, node) => return node.isDir
    | .error _ => return false
  match a.value? "t", a.operands with
  | _, [] => c.misuse 1 "missing file operand"
  | some directory, sources => forEach (fun s => one s (inDirectory directory s)) sources
  | none, [source] =>
    c.misuse 1 ("missing destination file operand after " ++ shellQuoted source)
  | none, [source, path] =>
    if !a.has "T" && (← isDir path) then one source (inDirectory path source)
    else one source path
  | none, operands =>
    let directory := operands.getLast?.getD ""
    if a.has "T" then c.misuse 1 ("extra operand " ++ shellQuoted ((operands[2]?).getD ""))
    match ← Act.look directory with
    | .ok (_, node) =>
      if node.isDir then forEach (fun s => one s (inDirectory directory s)) operands.dropLast
      else
        c.complain ("target " ++ shellQuoted directory ++ ": " ++ Disk.Fault.notDirectory.reason)
        return 1
    | .error fault =>
      c.complain ("target " ++ shellQuoted directory ++ ": " ++ fault.reason)
      return 1

/-- The options of copying and of moving. -/
def bringSwitches : List Switch :=
  [named 'f' "force", named 'i' "interactive", named 'n' "no-clobber", named 'u' "update" ,
    named 'v' "verbose", named 't' "target-directory" .something, named 'T' "no-target-directory",
    named 'b' "backup", word "strip-trailing-slashes"]

/-- Two nodes are the same file, at two places. -/
def areSame (p q : List String) (x y : Disk.Node) : Bool :=
  match x, y with
  | .file _ s, .file _ t => p == q || (s.identity != 0 && s.identity == t.identity)
  | _, _ => p == q

/-- Moves what is at a path out of the way. -/
def backUp (path : String) : Act Unit := do
  if let .ok (place, node) := ← Act.look path .stay then
    if !node.isDir then
      let name := place.getLast?.getD ""
      let _ ← Act.edit (.move place (place.dropLast ++ [name ++ "~"]))

/-! ## Copying -/

/-- How something is copied. -/
structure CopyManner where
  call : Call
  arguments : Arguments
  /-- With what is in a directory. -/
  whole : Bool
  /-- A link is copied as a link. -/
  keepsLinks : Bool
  /-- The place of the directory that is copied to, where a copy into itself shows. -/
  target : Option (List String) := none

namespace CopyManner

/-- Complains. -/
def refuse (m : CopyManner) (text : String) : Act Nat := do
  m.call.complain text
  return 1

/-- Says what is copied where. -/
def tell (m : CopyManner) (source path : String) : Act Unit := do
  if m.arguments.has "v" then
    Act.sayLine (shellQuoted source ++ " -> " ++ shellQuoted path)

/-- Puts a node at a path, in place of what is there. -/
def put (m : CopyManner) (node : Disk.Node) (what source path : String) : Act Nat := do
  let fail (fault : Disk.Fault) : Act Nat :=
    m.refuse ("cannot create " ++ what ++ " " ++ shellQuoted path ++ ": " ++ fault.reason)
  match ← Act.onDisk (fun d p => d.walk p .stay) path with
  | .error fault => fail fault
  | .ok (.node place _) =>
    let _ ← Act.edit (.put place node)
    m.tell source path
    return 0
  | .ok (.vacant place name) =>
    if path.endsWith "/" && !node.isDir then fail .notDirectory
    else
      match ← Act.edit (.make place name node) with
      | .ok () =>
        m.tell source path
        return 0
      | .error fault => fail fault

/-- Copies the bytes of a file to a path. -/
def copyFile (m : CopyManner) (bytes : ByteArray) (attributes : Disk.Attributes)
    (source path : String) : Act Nat := do
  let before ← Act.look path .stay
  let isDangling ←
    match before, ← Act.look path with
    | .ok (_, .link _), .error _ => pure true
    | _, _ => pure false
  if isDangling then m.refuse ("not writing through dangling symlink " ++ shellQuoted path)
  else
    let fail (fault : Disk.Fault) : Act Nat :=
      m.refuse ("cannot create regular file " ++ shellQuoted path ++ ": " ++ fault.reason)
    match ← Act.openPath .writing path with
    | .error .isDirectory =>
      if path.endsWith "/" then fail .notDirectory else fail .isDirectory
    | .error fault => fail fault
    | .ok index =>
      match (← get).world.opened[index]? with
      | some { channel := .file identity, .. } => Act.setFileBytes identity bytes
      | _ => pure ()
      if let .ok (place, _) := ← Act.look path then
        let mask := (← get).context.mask
        let keeps := m.arguments.has "p" || m.arguments.has "a"
        changeAttributes place fun now =>
          if keeps then { now with mode := attributes.mode, time := attributes.time }
          else if before matches .ok _ then now
          else { now with mode := attributes.mode - (attributes.mode &&& mask) }
      m.tell source path
      return 0

/-- The complaint about two names of one file. -/
def sameText (source path : String) : String :=
  shellQuoted source ++ " and " ++ shellQuoted path ++ " are the same file"

mutual

/-- Copies a node from a path to another one. -/
def copyNode (m : CopyManner) : Nat → List String → Disk.Node → String → String → Act Nat
  | 0, _, _, _, _ => return 1
  | fuel + 1, place, node, source, path => do
    let a := m.arguments
    let after ← Act.look path (if node matches .link _ then .stay else .follow)
    match node, after with
    | .dir _, .ok (_, other) =>
      if other.isDir then copyEntries m fuel place source path node.entries
      else
        m.refuse ("cannot overwrite non-directory " ++ shellQuoted path ++ " with directory " ++
          shellQuoted source)
    | .dir _, .error _ =>
      let status ← m.put (.dir []) "directory" source path
      if status ≠ 0 then return status
      let m := { m with target := m.target <|> (← placeOf path) }
      copyEntries m fuel place source path node.entries
    | .file bytes attributes, after =>
      let go : Act Nat := do
        if a.has "b" then backUp path
        if a.has "s" then m.put (.link (Machine.pathText source)) "symbolic link" source path
        else if a.has "l" then
          let _ ← Act.identityAt place
          m.put (((← get).world.disk.root.get? place).getD node) "hard link" source path
        else m.copyFile bytes attributes source path
      match after with
      | .error _ => go
      | .ok (other, there) =>
        if areSame place other node there then
          if a.has "l" then return 0
          m.refuse (sameText source path)
        else if there.isDir then
          m.refuse ("cannot overwrite directory " ++ shellQuoted path ++ " with non-directory")
        else if a.last? ["n", "f", "i"] = some "n" then return 0
        else if a.last? ["n", "f", "i"] = some "i" then
          let _ ← Act.write 2 (m.call.name ++ ": overwrite " ++ shellQuoted path ++ "? ")
          return 1
        else
          match there with
          | .file _ old =>
            if a.has "u" && attributes.time ≤ old.time then return 0
            if a.has "s" then
              m.refuse ("cannot create symbolic link " ++ shellQuoted path ++ ": " ++
                Disk.Fault.alreadyExists.reason)
            else if a.has "l" then
              m.refuse ("cannot create hard link " ++ shellQuoted path ++ " to " ++
                shellQuoted source ++ ": " ++ Disk.Fault.alreadyExists.reason)
            else go
          | _ => go
    | .link target, .ok (other, there) =>
      if place == other then m.refuse (sameText source path)
      else if there.isDir then
        m.refuse ("cannot overwrite directory " ++ shellQuoted path ++ " with non-directory")
      else m.put (.link target) "symbolic link" source path
    | .link target, .error _ => m.put (.link target) "symbolic link" source path
    | .device device, _ =>
      if m.whole then m.put (.device device) "special file" source path
      else m.copyFile .empty {} source path
    | .sealed .., _ => return 0

/-- Copies entries of a directory. -/
def copyEntries (m : CopyManner) : Nat → List String → String → String →
    List (String × Disk.Node) → Act Nat
  | 0, _, _, _, _ => return 1
  | _ + 1, _, _, _, [] => return 0
  | fuel + 1, place, source, path, (name, node) :: rest => do
    let below := place ++ [name]
    let octets := Text.octets name
    let inside (path : String) : String :=
      if path.endsWith "/" then path ++ octets else path ++ "/" ++ octets
    if m.target = some below then copyEntries m fuel place source path rest
    else
      let status ←
        match m.keepsLinks, node, ← Act.look (inside source) with
        | false, .link _, .ok (place, node) =>
          copyNode m fuel place node (inside source) (inside path)
        | _, _, _ => copyNode m fuel below node (inside source) (inside path)
      return max status (← copyEntries m fuel place source path rest)

/-- The place of a path, if there is anything. -/
def placeOf (path : String) : Act (Option (List String)) := do
  match ← Act.look path with
  | .ok (place, _) => return some place
  | .error _ => return none

end

/-- Copies what is at a path to another one. -/
def copy (m : CopyManner) (source path : String) : Act Nat := do
  match ← Act.look source (if m.keepsLinks then .stay else .follow) with
  | .error fault =>
    m.refuse ("cannot stat " ++ shellQuoted source ++ ": " ++ fault.reason)
  | .ok (place, node) =>
    if node.isDir && !m.whole then
      m.refuse ("-r not specified; omitting directory " ++ shellQuoted source)
    else
      let status ← copyNode m 10000 place node source path
      match node.isDir, ← placeOf path with
      | true, some target =>
        if place.isPrefixOf target && place != target then
          m.refuse ("cannot copy a directory, " ++ shellQuoted source ++ ", into itself, " ++
            shellQuoted path)
        else return status
      | _, _ => return status

end CopyManner

/-- Copies files, and directories if it is told to. -/
def cp : Program := fun c => do
  let a ← understand c
    (bringSwitches ++ [named 'r' "recursive", named 'a' "archive", named 'd' "no-dereference",
      named 'P' "no-dereference", named 'L' "dereference", named 'l' "link",
      named 's' "symbolic-link",
      named 'p' "preserve" , named 'x' "one-file-system", word "parents", word "remove-destination",
      word "no-preserve" .something, word "reflink" .perhaps, word "sparse" .something] ++
      letters "RH")
  if a.has "n" then
    c.complain ("warning: behavior of -n is non-portable and may change in future; " ++
      "use --update=none instead")
  let whole := a.has "r" || a.has "R" || a.has "a"
  let keepsLinks :=
    match a.last? ["a", "d", "P", "L", "H"] with
    | some "L" | some "H" => false
    | some _ => true
    | none => whole
  bring c a fun source path =>
    CopyManner.copy { call := c, arguments := a, whole, keepsLinks } source path

/-! ## Moving -/

/-- Moves what is at a path to another one. -/
def moveOne (c : Call) (a : Arguments) (source path : String) : Act Nat := do
  let refuse (text : String) : Act Nat := do
    c.complain text
    return 1
  let cannot (reason : String) : Act Nat :=
    refuse ("cannot move " ++ shellQuoted source ++ " to " ++ shellQuoted path ++ ": " ++ reason)
  match ← Act.look source .stay with
  | .error fault => refuse ("cannot stat " ++ shellQuoted source ++ ": " ++ fault.reason)
  | .ok (place, node) =>
    let last := (Disk.Path.names source).getLast?
    let settle (target : List String) : Act Nat := do
      if a.has "b" then backUp path
      match ← Act.edit (.move place target) with
      | .ok () =>
        if a.has "v" then
          Act.sayLine ("renamed " ++ shellQuoted source ++ " -> " ++ shellQuoted path)
        return 0
      | .error fault => cannot fault.reason
    let busy := last = some "." || last = some ".."
    let leads (path : String) : Act (Except Disk.Fault Disk.Spot) :=
      Act.onDisk (fun d p => d.walk p .stay) path
    let spot ←
      match ← leads path with
      -- A slash may follow the name of a directory that is not there yet.
      | .error .notFound =>
        leads (String.ofList (path.toList.reverse.dropWhile (· = '/')).reverse)
      | spot => pure spot
    match spot with
    | .error fault =>
      if fault = .notDirectory && path.endsWith "/" then
        refuse ("cannot stat " ++ shellQuoted path ++ ": " ++ fault.reason)
      else cannot fault.reason
    | .ok (.vacant parent name) =>
      if busy then cannot "Device or resource busy"
      else if path.endsWith "/" && !node.isDir then cannot Disk.Fault.notDirectory.reason
      else if node.isDir && place.isPrefixOf (parent ++ [name]) then
        refuse ("cannot move " ++ shellQuoted source ++ " to a subdirectory of itself, " ++
          shellQuoted path)
      else
        match (← get).disk.seal? parent (!node.isDir) with
        | some fault => cannot fault.reason
        | none => settle (parent ++ [name])
    | .ok (.node target there) =>
      if areSame place target node there then
        if node.isDir then
          refuse ("cannot move " ++ shellQuoted source ++ " to a subdirectory of itself, " ++
            shellQuoted path)
        else refuse (CopyManner.sameText source path)
      else if a.last? ["n", "f", "i"] = some "n" then
        refuse ("not replacing " ++ shellQuoted path)
      else if a.last? ["n", "f", "i"] = some "i" then
        let _ ← Act.write 2 (c.name ++ ": overwrite " ++ shellQuoted path ++ "? ")
        return 1
      else if there.isDir && !node.isDir then
        refuse ("cannot overwrite directory " ++ shellQuoted path ++ " with non-directory")
      else if node.isDir && !there.isDir then
        refuse ("cannot overwrite non-directory " ++ shellQuoted path ++ " with directory " ++
          shellQuoted source)
      else if node.isDir && place.isPrefixOf target then
        refuse ("cannot move " ++ shellQuoted source ++ " to a subdirectory of itself, " ++
          shellQuoted path)
      else if busy then cannot "Device or resource busy"
      else if there.isDir && !there.entries.isEmpty then
        refuse ("cannot overwrite " ++ shellQuoted path ++ ": " ++ Disk.Fault.notEmpty.reason)
      else
        match a.has "u", node, there with
        | true, .file _ x, .file _ y => if x.time ≤ y.time then return 0 else settle target
        | _, _, _ => settle target

/-- Moves files and directories. -/
def mv : Program := fun c => do
  let a ← understand c bringSwitches
  bring c a (moveOne c a)

end ContractBindings.Utility
