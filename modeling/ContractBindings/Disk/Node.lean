import ContractBindings.Disk.Fault

/-!
# Nodes

What stands at a place on a disk. The entries of a directory are kept in byte order of their names
by `setEntry`, so that two directories with the same entries are the same.
-/

namespace ContractBindings.Disk

/-- What a file carries besides its bytes. -/
structure Attributes where
  /-- Who may do what with it, as the bits that the operating system keeps. -/
  mode : Nat := 0o644
  /-- The time of the last change, in thousandths of a second since the disk was set up. -/
  time : Int := 0
  /-- Nodes with the same identity are one file under several names; zero is no identity. -/
  identity : Nat := 0
  deriving DecidableEq, Repr

/-- A file that holds nothing of its own. -/
inductive Device where
  /-- Takes everything and gives nothing. -/
  | null
  /-- Takes everything and gives zeros. -/
  | zero
  /-- Takes nothing and gives zeros. -/
  | full
  /-- Is there for no program without a terminal. -/
  | terminal
  /-- The numbered stream of the program that opens it. -/
  | stream (number : Nat)
  deriving DecidableEq, Repr

/-- A file, a symbolic link or a directory. -/
inductive Node where
  /-- A file with its bytes. -/
  | file (bytes : ByteArray) (attributes : Attributes := {})
  /-- A link to a path. -/
  | link (target : String)
  /-- A directory with its named entries. -/
  | dir (entries : List (String × Node))
  /-- A device. -/
  | device (device : Device)
  /-- A directory that the operating system keeps, with what stands in the way of making a directory
  or a file in it. -/
  | sealed (forDirectory forFile : Fault)

namespace Node

/-- The node is a directory. -/
def isDir : Node → Bool
  | dir _ | sealed .. => true
  | _ => false

/-- The size of a node. -/
def byteSize : Node → Nat
  | file bytes _ => bytes.size
  | link target => target.utf8ByteSize
  | dir _ | sealed .. => 4096
  | device _ => 0

/-- Who may do what with a node. -/
def mode : Node → Nat
  | file _ attributes => attributes.mode
  | link _ => 0o777
  | dir _ => 0o755
  | sealed .. => 0o555
  | device _ => 0o666

/-- The time of the last change of a node. Only files have one. -/
def time : Node → Int
  | file _ attributes => attributes.time
  | _ => 0

/-- The node is a file. -/
def isFile : Node → Bool
  | file .. => true
  | _ => false

/-- The entries of a directory; a file or link has none. -/
def entries : Node → List (String × Node)
  | dir entries => entries
  | _ => []

/-- The entries with one more, before the first that comes after it in byte order. -/
def insertEntry (name : String) (node : Node) : List (String × Node) → List (String × Node)
  | [] => [(name, node)]
  | entry :: rest =>
    if name < entry.1 then (name, node) :: entry :: rest
    else entry :: insertEntry name node rest

/-- The entries with the node of one of them replaced. -/
def replaceEntry (name : String) (node : Node) : List (String × Node) → List (String × Node)
  | [] => []
  | entry :: rest =>
    if entry.1 = name then (name, node) :: rest else entry :: replaceEntry name node rest

/-- The entries with a node at a name, new or in place of another one. -/
def setEntry (name : String) (node : Node) (entries : List (String × Node)) :
    List (String × Node) :=
  if (entries.lookup name).isSome then replaceEntry name node entries
  else insertEntry name node entries

/-- The node at a place below, given by the names that lead to it. -/
def get? : Node → List String → Option Node
  | node, [] => some node
  | node, name :: rest => (node.entries.lookup name).bind (·.get? rest)

/-- The node with another one at a place below it. Where there is no directory to hold it, nothing
changes. -/
def set (new : Node) : Node → List String → Node
  | _, [] => new
  | dir entries, [name] => dir (setEntry name new entries)
  | dir entries, name :: rest =>
    match entries.lookup name with
    | some child => dir (replaceEntry name (set new child rest) entries)
    | none => dir entries
  | node, _ => node

/-- The node without what stands at a place below it. -/
def erase : Node → List String → Node
  | dir entries, [name] => dir (entries.filter (·.1 != name))
  | dir entries, name :: rest =>
    match entries.lookup name with
    | some child => dir (replaceEntry name (child.erase rest) entries)
    | none => dir entries
  | node, _ => node

mutual

/-- The bytes of the file with an identity at or below a node. -/
def bytesWith? (identity : Nat) : Node → Option ByteArray
  | file bytes attributes => if attributes.identity = identity then some bytes else none
  | dir entries => bytesWithin? identity entries
  | _ => none

/-- The bytes of the file with an identity in entries. -/
def bytesWithin? (identity : Nat) : List (String × Node) → Option ByteArray
  | [] => none
  | (_, node) :: rest =>
    match bytesWith? identity node with
    | some bytes => some bytes
    | none => bytesWithin? identity rest

end

mutual

/-- The node with other bytes for the file with an identity. -/
def rewrite (identity : Nat) (time : Int) (bytes : ByteArray) : Node → Node
  | file old attributes =>
    if attributes.identity = identity then file bytes { attributes with time }
    else file old attributes
  | dir entries => dir (rewriteAll identity time bytes entries)
  | node => node

/-- The entries with other bytes for the file with an identity. -/
def rewriteAll (identity : Nat) (time : Int) (bytes : ByteArray) :
    List (String × Node) → List (String × Node)
  | [] => []
  | (name, node) :: rest =>
    (name, rewrite identity time bytes node) :: rewriteAll identity time bytes rest

end

/-- The entries of a directory in byte order of their names. -/
def sorted {α : Type} (entries : List (String × α)) : List (String × α) :=
  entries.mergeSort fun a b => decide (a.1 ≤ b.1)

end Node

end ContractBindings.Disk
