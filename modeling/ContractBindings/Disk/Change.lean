import ContractBindings.Disk.Access

/-!
# Changes from outside

What others than the program itself do to a disk: they put files, links and directories on it, and
take them away.
-/

namespace ContractBindings.Disk

/-- Something that is put at a path, or taken away. What is above the path is made where it is
missing. -/
inductive Change where
  | file (path : String) (bytes : ByteArray)
  | link (path target : String)
  | directory (path : String)
  /-- A directory with a chain of `depth` directories in it, all of one name. -/
  | chain (path name : String) (depth : Nat)
  /-- What stands at the path goes, if there is anything. -/
  | removal (path : String)

/-- Directories of one name, each in the one before. -/
def Node.chain (name : String) : Nat → Node
  | 0 => .dir []
  | depth + 1 => .dir [(name, Node.chain name depth)]

/-- Makes the directories above a path. -/
def createParents (d : Disk) (path : String) : Except Fault Disk :=
  match Path.parent? path with
  | none => .ok d
  | some parent =>
    match d.createDirAll parent with
    | (.ok (), d) => .ok d
    | (.error fault, _) => .error fault

/-- Makes a path a directory, and those above it that are missing. -/
def createDirs (d : Disk) (path : String) : Except Fault Disk :=
  match d.createDirAll path with
  | (.ok (), d) => .ok d
  | (.error fault, _) => .error fault

/-- Makes a link at a path where there is nothing yet. -/
def createLink (d : Disk) (path target : String) : Except Fault Disk :=
  match d.walk path .stay with
  | .ok (.vacant place name) => d.makeNode place name (.link target)
  | .ok (.node _ _) => .error .alreadyExists
  | .error fault => .error fault

/-- Puts a node into a directory. -/
def putInto (d : Disk) (directory name : String) (node : Node) : Except Fault Disk :=
  match d.walk directory .follow with
  | .ok (.node place (.dir _)) => d.makeNode place name node
  | .ok _ => .error .notDirectory
  | .error fault => .error fault

/-- Makes a change. -/
def change (d : Disk) : Change → Except Fault Disk
  | .file path bytes => (d.createParents path).bind (·.writeBytes path bytes)
  | .link path target => (d.createParents path).bind (·.createLink path target)
  | .directory path => d.createDirs path
  | .chain path name depth =>
    match depth with
    | 0 => d.createDirs path
    | depth + 1 => (d.createDirs path).bind (·.putInto path name (Node.chain name depth))
  | .removal path =>
    match d.remove path with
    | .ok d => .ok d
    | .error _ => .ok d

/-- Makes changes in order, up to the first that cannot be made. -/
def changeAll (d : Disk) : List Change → Except Fault Disk
  | [] => .ok d
  | c :: rest => (d.change c).bind (changeAll · rest)

end ContractBindings.Disk
