import ContractBindings.Disk.Access
import ContractBindings.Log.Entry

/-!
# Searching a tree for a file

`Disk.find` looks for a file by its exact name, everywhere below a directory. Entries are visited
in byte order of their names, a directory with all that it holds in its place, so that of several
files the answer does not depend on the order in which a directory lists them. Links are not
followed, and a directory that cannot be read is passed over.
-/

namespace ContractBindings.Disk

/-- What a search came to: a path, if there was one, and what there is to tell. -/
structure Search where
  path : Option String := none
  log : List Log.Entry := []

/-- The first of several searches, one after the other, that found something. -/
def Search.first : List Search → Search
  | [] => {}
  | s :: rest =>
    match s.path with
    | some _ => s
    | none =>
      let later := first rest
      { later with log := s.log ++ later.log }

mutual

/-- Searches a node at a path for files of a name; `name` is the name of the node itself. -/
def searchNode (file name path : String) : Node → Search
  | .file .. => if name = file then { path := some path } else {}
  | .link _ | .device _ | .sealed .. => {}
  | .dir entries => searchEntries file path entries

/-- Searches the entries of a directory at a path. -/
def searchEntries (file path : String) (entries : List (String × Node)) : Search :=
  match refused path with
  | some fault => { log := [.unreadableDirectory path fault] }
  | none => Search.first ((Node.sorted (searchEach file path entries)).map Prod.snd)

/-- Searches each entry of a directory at a path. -/
def searchEach (file path : String) : List (String × Node) → List (String × Search)
  | [] => []
  | (name, node) :: rest =>
    (name, searchNode file name (Path.join path name) node) :: searchEach file path rest

end

/-- Searches everything below a directory for a file of a name. -/
def find (d : Disk) (root file : String) : Search :=
  match d.node root with
  | .ok (.dir entries) => searchEntries file root entries
  | .ok (.sealed ..) => {}
  | _ => { log := [.missingRoot root] }

end ContractBindings.Disk
