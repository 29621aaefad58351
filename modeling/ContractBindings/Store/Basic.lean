import ContractBindings.Artifact.Reader
import ContractBindings.Store.Search

/-!
# The store of artifacts

The directory in which a compiler leaves its artifacts. `Store.locate` looks at the places where
compilers put the artifact of a contract before it searches the whole tree; `Store.load` also reads
what it finds.
-/

namespace ContractBindings

/-- A directory of artifacts. -/
structure Store where
  root : String

namespace Store

/-- The name of the file that holds the artifact of a contract. -/
def fileName (contract : String) : String := contract ++ ".json"

/-- The places where compilers put the artifact of a contract, best first. -/
def conventional (s : Store) (contract : String) : List String :=
  let within (directories : List String) : String :=
    Disk.Path.join (directories.foldl Disk.Path.join (Disk.Path.join s.root "contracts"))
      (fileName contract)
  [within [contract ++ ".sol"],
    within [contract ++ ".SOL"],
    within [contract ++ ".sol", contract ++ ".sol"]]

/-- Finds the artifact of a contract. -/
def locate (s : Store) (contract : String) (d : Disk) : Disk.Search :=
  match (s.conventional contract).find? d.isFile with
  | some path => { path := some path, log := [.conventionalPath path] }
  | none =>
    let search := d.find s.root (fileName contract)
    { search with log := .searching s.root (fileName contract) :: search.log }

/-- Reads the artifact at a path. -/
def readAt (path : String) (d : Disk) : Except Extraction.Error Artifact :=
  match d.readText path with
  | .error fault => .error (.artifactRead path fault)
  | .ok text => (Artifact.read text).mapError (.invalidArtifact path)

/-- Finds and reads the artifact of a contract, and tells how it went. -/
def load (s : Store) (contract : String) (d : Disk) :
    Except Extraction.Error (String × Artifact) × List Log.Entry :=
  let search := s.locate contract d
  match search.path with
  | none => (.error (.artifactNotFound s.root (fileName contract)), search.log)
  | some path =>
    match readAt path d with
    | .error e => (.error e, search.log)
    | .ok artifact =>
      (.ok (path, artifact), search.log ++ [.loaded path artifact.contractName])

end Store

end ContractBindings
