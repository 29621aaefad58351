import ContractBindings.Disk.Edit
import ContractBindings.Text.Octets

/-!
# Machines

What a running program can see and change. The world is shared by all programs that run; a process
is what one of them has for itself, and what the programs that it starts begin with.

Paths, names, arguments and texts are octets here; only the disk holds them as text.

The disk of a world is in order, and the world says so. It changes by `World.withRoot` alone, so that
no program can bring it out of order.
-/

namespace ContractBindings.Process

/-- Where an open file leads. -/
inductive Channel where
  /-- To the file with an identity. -/
  | file (identity : Nat)
  /-- To a device. -/
  | device (device : Disk.Device)
  /-- To a directory, which cannot be read. -/
  | directory
  /-- To a numbered buffer: what one program writes, and perhaps another one reads. -/
  | buffer (index : Nat)
  deriving DecidableEq, Repr

/-- A file that is open, for all streams that share its offset. -/
structure OpenFile where
  channel : Channel
  /-- Where the next byte is read or written. -/
  offset : Nat := 0
  reads : Bool := false
  writes : Bool := false
  /-- What is written goes to the end, wherever the offset is. -/
  appends : Bool := false

/-- A time at which a signal comes to a process and to those that it has started. -/
structure Deadline where
  time : Nat
  signal : Nat
  /-- The number of the process that has set it, which does not get the signal itself. -/
  owner : Nat

/-- What all programs share. -/
structure World where
  disk : Disk
  /-- The entries of all directories are in order. -/
  ordered : disk.root.Ordered
  /-- The files that were opened; a stream is an index. -/
  opened : Array OpenFile := #[]
  buffers : Array ByteArray := #[]
  /-- The bytes of open files that have no name any more, by identity. -/
  orphans : List (Nat × ByteArray) := []
  /-- The last identity that was given to a file. -/
  lastIdentity : Nat := 0
  /-- The thousandths of a second that have gone by. Starting a program takes one. -/
  clock : Nat := 0
  /-- The last number that was given to a process. -/
  lastProcess : Nat := 100
  /-- The processes that run. -/
  alive : List Nat := []
  /-- Processes with the signals that have been sent to them, the last first. -/
  signals : List (Nat × Nat) := []
  /-- The earliest first. -/
  deadlines : List Deadline := []

namespace World

/-- The world with another tree on its disk. -/
def withRoot (w : World) (root : Disk.Node) (ordered : root.Ordered) : World :=
  { w with disk := { w.disk with root }, ordered }

/-- The world with a node at a place, which has nothing in it. -/
def put (w : World) (place : List String) (node : Disk.Node) : World :=
  w.withRoot (w.disk.put place node.bare).root (Disk.ordered_put_bare w.ordered place node)

/-- The world with other bytes for the files that have an identity on its disk. -/
def rewrite (w : World) (identity : Nat) (bytes : ByteArray) : World :=
  w.withRoot (w.disk.root.rewrite identity w.clock bytes) (Disk.Node.ordered_rewrite w.ordered)

end World

/-- What a program has for itself. -/
structure Context where
  /-- The number of the process. -/
  number : Nat := 100
  /-- The number of the process that started it. -/
  parent : Nat := 1
  /-- The program that it starts next takes its place. -/
  replaces : Bool := false
  /-- The directory in which it works. -/
  here : List String := []
  /-- The numbered streams, with the open files to which they lead. -/
  streams : List (Nat × Nat) := []
  /-- The variables that it was given. -/
  environment : List (String × String) := []
  /-- The bits that a new file does not get. -/
  mask : Nat := 0o022
  /-- Signals that do nothing to it. -/
  ignored : List Nat := []
  /-- What it has written to its output and not sent on yet. -/
  held : List String := []
  /-- Why its output was not taken. -/
  outputFault : Option Disk.Fault := none

/-- A running program with the world around it. -/
structure Machine where
  world : World
  context : Context := {}

namespace Machine

/-- The disk as the program sees it. -/
def disk (m : Machine) : Disk := { m.world.disk with here := m.context.here }

/-- The world after a step that the program takes on the disk. -/
def edit (m : Machine) (e : Disk.Edit) : Except Disk.Fault World :=
  match h : m.disk.edit e with
  | .ok d => .ok (m.world.withRoot d.root (Disk.ordered_edit (d := m.disk) m.world.ordered h))
  | .error fault => .error fault

/-- The machine with a node at a place, which has nothing in it. -/
def put (m : Machine) (place : List String) (node : Disk.Node) : Machine :=
  { m with world := m.world.put place node }

/-- A path as the disk knows it. -/
def pathText (path : String) : String := Text.ofOctets path

/-- The path of the directory in which the program works. -/
def workPath (m : Machine) : String := Text.octets ("/" ++ String.intercalate "/" m.context.here)

end Machine

/-- The programs that run in a machine: steps that can end the program with a status. -/
abbrev Act := ExceptT Nat (StateM Machine)

namespace Act

/-- What the disk says about a path. -/
def onDisk {α : Type} (ask : Disk → String → α) (path : String) : Act α := do
  return ask (← get).disk (Machine.pathText path)

/-- Where a path leads: to a place and the node there. -/
def look (path : String) (atEnd : Disk.AtEnd := .follow) :
    Act (Except Disk.Fault (List String × Disk.Node)) := do
  match ← onDisk (fun d p => d.walk p atEnd) path with
  | .ok (.node place node) => return .ok (place, node)
  | .ok (.vacant _ _) => return .error .notFound
  | .error fault => return .error fault

end Act

end ContractBindings.Process
