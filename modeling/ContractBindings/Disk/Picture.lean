import ContractBindings.Disk.Change

/-!
# Pictures of disks

A program can work on a picture of a few directories. `plant` puts a picture where it belongs, and
`differences` are the changes that lead from one picture to another, which can then be made to the
disk itself.
-/

namespace ContractBindings.Disk

/-- The entries with a node at a place below them. Directories on the way are made where there are
none. -/
def plant (node : Node) (entries : List (String × Node)) : List String → List (String × Node)
  | [] => node.entries
  | [name] => Node.setEntry name node entries
  | name :: rest =>
    let below := ((entries.lookup name).map Node.entries).getD []
    Node.setEntry name (.dir (plant node below rest)) entries

mutual

/-- The changes that make a node where there is nothing. -/
def creations (path : String) : Node → List Change
  | .file bytes _ => [.file path bytes]
  | .link target => [.link path target]
  | .dir entries => .directory path :: creationsIn path entries
  | .device _ | .sealed .. => []

/-- The changes that make entries in a directory. -/
def creationsIn (path : String) : List (String × Node) → List Change
  | [] => []
  | (name, node) :: rest => creations (Path.join path name) node ++ creationsIn path rest

end

mutual

/-- The changes that lead from one node at a path to another one there. -/
def differences (path : String) (before : Node) : Node → List Change
  | .file bytes _ =>
    match before with
    | .file others _ => if others == bytes then [] else [.file path bytes]
    | _ => [.removal path, .file path bytes]
  | .link target =>
    match before with
    | .link other => if other = target then [] else [.removal path, .link path target]
    | _ => [.removal path, .link path target]
  | .dir entries =>
    match before with
    | .dir others =>
      (others.filter fun o => (entries.lookup o.1).isNone).map
          (fun o => .removal (Path.join path o.1)) ++
        differencesIn path others entries
    | _ => .removal path :: .directory path :: creationsIn path entries
  | .device _ | .sealed .. => []

/-- The changes that lead from the entries of a directory to others. -/
def differencesIn (path : String) (before : List (String × Node)) :
    List (String × Node) → List Change
  | [] => []
  | (name, node) :: rest =>
    (match before.lookup name with
      | some other => differences (Path.join path name) other node
      | none => creations (Path.join path name) node) ++ differencesIn path before rest

end

end ContractBindings.Disk
