import ContractBindings.Disk.Fault
import ContractBindings.Disk.Node
import ContractBindings.Disk.Path

/-!
# Disks

A tree of nodes and the directory in which a program works. `Disk.walk` says where a path leads:
to a node, or to a vacant place in a directory, where something may be made.
-/

namespace ContractBindings

/-- The files that a program can see. -/
structure Disk where
  /-- The directory at the root. -/
  root : Disk.Node := .dir []
  /-- The names that lead from the root to the directory in which the program works. -/
  here : List String := []
  /-- The thousandths of a second that have gone by since the disk was set up. -/
  clock : Nat := 0
  /-- The last identity that was given to a file. -/
  lastIdentity : Nat := 0

namespace Disk

/-- Where a path leads. -/
inductive Spot where
  /-- To a node, at a place without links. -/
  | node (place : List String) (node : Node)
  /-- To no node, but into a directory that could hold one. -/
  | vacant (directory : List String) (name : String)

/-- What a walk does at the end of its path. -/
inductive AtEnd where
  /-- It stops at a link. -/
  | stay
  /-- It follows a link. -/
  | follow
  /-- It follows a link on its way to a file that is to be written, to which no slash may lead. -/
  | write
  deriving DecidableEq

/-- The most symbolic links that one path may lead through. -/
def maxLinks : Nat := 40

/-- Where the walk along a path starts, from a directory. -/
def start (place : List String) (path : String) : List String :=
  if Path.isAbsolute path then [] else place

/-- Takes steps from a place in the tree. `links` counts the links that may still be followed. -/
def walkFrom (root : Node) (atEnd : AtEnd) (links : Nat) (place : List String) :
    List String → Except Fault Spot
  | [] =>
    match root.get? place with
    | some node => .ok (.node place node)
    | none => .error .notFound
  | name :: rest =>
    match root.get? place with
    | none => .error .notFound
    | some (.dir entries) =>
      if name = "" ∨ name = "." then walkFrom root atEnd links place rest
      else if name = ".." then walkFrom root atEnd links place.dropLast rest
      else if atEnd = .write ∧ rest = [""] then .error .isDirectory
      else if Path.maxNameBytes < name.utf8ByteSize then .error .nameTooLong
      else
        match entries.lookup name with
        | none => if rest.isEmpty then .ok (.vacant place name) else .error .notFound
        | some (.link target) =>
          if rest.isEmpty ∧ atEnd = .stay then .ok (.node (place ++ [name]) (.link target))
          else
            match links with
            | 0 => .error .tooManyLinks
            | links + 1 =>
              walkFrom root atEnd links (start place target) (Path.steps target ++ rest)
        | some _ => walkFrom root atEnd links (place ++ [name]) rest
    | some (.sealed ..) =>
      if name = "" ∨ name = "." then walkFrom root atEnd links place rest
      else if name = ".." then walkFrom root atEnd links place.dropLast rest
      else if rest.isEmpty then .ok (.vacant place name)
      else .error .notFound
    | some _ => .error .notDirectory
termination_by steps => (links, steps.length)

/-- What the operating system refuses in a path before it looks at the disk. -/
def refused (path : String) : Option Fault :=
  if path.toList.contains '\x00' then some .nulInPath
  else if path.isEmpty then some .notFound
  else if Path.maxBytes < path.utf8ByteSize then some .nameTooLong
  else none

/-- Where a path leads. -/
def walk (d : Disk) (path : String) (atEnd : AtEnd) : Except Fault Spot :=
  match refused path with
  | some fault => .error fault
  | none => walkFrom d.root atEnd maxLinks (start d.here path) (Path.steps path)

/-- The node to which a path leads. -/
def node (d : Disk) (path : String) : Except Fault Node :=
  match d.walk path .follow with
  | .ok (.node _ node) => .ok node
  | .ok (.vacant _ _) => .error .notFound
  | .error fault => .error fault

/-- The path leads to a directory. -/
def isDir (d : Disk) (path : String) : Bool :=
  match d.node path with
  | .ok node => node.isDir
  | .error _ => false

/-- The path leads to a file. -/
def isFile (d : Disk) (path : String) : Bool :=
  match d.node path with
  | .ok node => node.isFile
  | .error _ => false

/-- The disk with a node at a place. -/
def put (d : Disk) (place : List String) (node : Node) : Disk :=
  { d with root := node.set d.root place }

/-- The same disk for a program that works in another directory. -/
def enter (d : Disk) (path : String) : Except Fault Disk :=
  match d.walk path .follow with
  | .ok (.node place node) =>
    if node.isDir then .ok { d with here := place } else .error .notDirectory
  | .ok (.vacant _ _) => .error .notFound
  | .error fault => .error fault

end Disk

end ContractBindings
