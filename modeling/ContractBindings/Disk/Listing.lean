import ContractBindings.Disk.Access

/-!
# Listings

Everything below a directory: the entries of a directory in byte order of their names, and each
directory before what it holds.
-/

namespace ContractBindings.Disk

/-- What a listing says about a path. -/
inductive Item where
  | directory
  /-- A file, with its bytes as text, repaired where they are none. -/
  | file (text : String)
  /-- A symbolic link, which is not followed. -/
  | link (target : String)

mutual

/-- The listing of a node at a path, with everything below it. -/
def listNode (path : String) : Node → List (String × Item)
  | .file bytes _ => [(path, .file (Text.repaired bytes))]
  | .link target => [(path, .link target)]
  | .dir entries => (path, .directory) :: listEntries path entries
  | .device _ => [(path, .file "")]
  | .sealed .. => [(path, .directory)]

/-- The listings of the entries of a directory, as one. Nothing is listed of a directory whose path
is too long for the operating system. -/
def listEntries (path : String) (entries : List (String × Node)) : List (String × Item) :=
  if Path.maxBytes < path.utf8ByteSize then []
  else ((Node.sorted (listEach path entries)).map Prod.snd).flatten

/-- The listing of each entry, with its name. -/
def listEach (path : String) : List (String × Node) → List (String × List (String × Item))
  | [] => []
  | (name, node) :: rest => (name, listNode (Path.join path name) node) :: listEach path rest

end

/-- The path as a listing begins with it: nothing stands for the directory in which one is. -/
def listedPath (path : String) : String :=
  match path.toList with
  | ['.'] => ""
  | '.' :: '/' :: rest => String.ofList rest
  | _ => path

/-- Everything below a path. A path that leads to no directory has nothing below it. -/
def listing (d : Disk) (path : String) : List (String × Item) :=
  match d.node path with
  | .ok (.dir entries) => listEntries (listedPath path) entries
  | _ => []

end ContractBindings.Disk
