import ContractBindings.Disk.Basic
import ContractBindings.Text.Utf8

/-!
# Reading and writing

What programs do to a disk. An operation that fails leaves the disk as it was, with one exception:
`createDirAll` makes directories one after the other, and those it has made stay.
-/

namespace ContractBindings.Disk

/-- The bytes of a file. A device gives none. -/
def readBytes (d : Disk) (path : String) : Except Fault ByteArray :=
  match d.node path with
  | .ok (.file bytes _) => .ok bytes
  | .ok (.device .terminal) => .error .noDevice
  | .ok (.device _) => .ok .empty
  | .ok _ => .error .isDirectory
  | .error fault => .error fault

/-- The text of a file. -/
def readText (d : Disk) (path : String) : Except Fault String :=
  match d.readBytes path with
  | .error fault => .error fault
  | .ok bytes =>
    match Text.ofBytes? bytes with
    | some text => .ok text
    | none => .error .notText

/-- The directory to which the names before the last one of a path lead. -/
def directoryOf (d : Disk) (path : String) : Except Fault (List String) :=
  match refused path with
  | some fault => .error fault
  | none =>
    match walkFrom d.root .follow maxLinks (start d.here path) (Path.names path).dropLast with
    | .ok (.node place node) => if node.isDir then .ok place else .error .notDirectory
    | .ok (.vacant _ _) => .error .notFound
    | .error fault => .error fault

/-- What stands in the way of making a file, or a directory, in the directory at a place. -/
def seal? (d : Disk) (place : List String) (ofFile : Bool) : Option Fault :=
  match d.root.get? place with
  | some (.sealed forDirectory forFile) => some (if ofFile then forFile else forDirectory)
  | _ => none

/-- Makes a node where there is none yet. -/
def makeNode (d : Disk) (place : List String) (name : String) (node : Node) : Except Fault Disk :=
  match d.seal? place (!node.isDir) with
  | some fault => .error fault
  | none => .ok (d.put (place ++ [name]) node)

/-- Makes a directory at a path where there is nothing yet. A link to nowhere is something. -/
def createDir (d : Disk) (path : String) : Except Fault Disk :=
  match d.directoryOf path with
  | .error fault => .error fault
  | .ok place =>
    match (Path.names path).getLast? with
    | none => .error .alreadyExists
    | some name =>
      match walkFrom d.root .stay maxLinks place [name] with
      | .ok (.vacant place name) => d.makeNode place name (.dir [])
      | .ok (.node _ _) => .error .alreadyExists
      | .error fault => .error fault

/-- Makes the first of some paths a directory, where each path is the parent of the one before. -/
def createEach (d : Disk) : List String → Except Fault Unit × Disk
  | [] => (.ok (), d)
  | path :: parents =>
    match d.createDir path with
    | .ok d => (.ok (), d)
    | .error .notFound =>
      match createEach d parents with
      | (.error fault, d) => (.error fault, d)
      | (.ok (), d) =>
        match d.createDir path with
        | .ok d => (.ok (), d)
        | .error fault => (if d.isDir path then .ok () else .error fault, d)
    | .error fault => (if d.isDir path then .ok () else .error fault, d)

/-- Makes a path a directory, and those above it that are missing. -/
def createDirAll (d : Disk) (path : String) : Except Fault Unit × Disk :=
  createEach d (Path.ancestors path)

/-- The place of the file to which a path leads, or of a new one. -/
def filePlace (d : Disk) (path : String) : Except Fault (List String) :=
  match d.walk path .write with
  | .ok (.node place node) => if node.isDir then .error .isDirectory else .ok place
  | .ok (.vacant place name) =>
    match d.seal? place true with
    | some fault => .error fault
    | none => .ok (place ++ [name])
  | .error fault => .error fault

/-- Writes the bytes of the file at a place, which replace those that it had under all its names. A
full device takes only nothing. -/
def writeAt (d : Disk) (place : List String) (bytes : ByteArray) : Except Fault Disk :=
  match d.root.get? place with
  | some (.file _ attributes) =>
    if attributes.identity = 0 then
      .ok (d.put place (.file bytes { attributes with time := d.clock }))
    else .ok { d with root := d.root.rewrite attributes.identity d.clock bytes }
  | some (.device .terminal) => .error .noDevice
  | some (.device .full) => if bytes.isEmpty then .ok d else .error .noSpace
  | some (.device _) => .ok d
  | _ => .ok (d.put place (.file bytes { time := d.clock }))

/-- Writes the bytes of a file, which replace those that it had. -/
def writeBytes (d : Disk) (path : String) (bytes : ByteArray) : Except Fault Disk :=
  (d.filePlace path).bind (d.writeAt · bytes)

/-- Writes the text of a file, which replaces the one that it had. -/
def writeText (d : Disk) (path : String) (text : String) : Except Fault Disk :=
  d.writeBytes path (Text.toBytes text)

/-- Writes the text of a file, and makes the directories above it that are missing. Directories
made on the way stay when a later step fails. -/
def writeOutput (d : Disk) (path : String) (text : String) : Except Fault Unit × Disk :=
  let (made, d) :=
    match Path.parent? path with
    | some parent => d.createDirAll parent
    | none => (.ok (), d)
  match made with
  | .error fault => (.error fault, d)
  | .ok () =>
    match d.writeText path text with
    | .ok d => (.ok (), d)
    | .error fault => (.error fault, d)

/-- Takes away what stands at a path, with everything below it. A link goes, and not what it leads
to. -/
def remove (d : Disk) (path : String) : Except Fault Disk :=
  match d.walk path .stay with
  | .ok (.node place _) => .ok { d with root := d.root.erase place }
  | .ok (.vacant _ _) => .error .notFound
  | .error fault => .error fault

end ContractBindings.Disk
