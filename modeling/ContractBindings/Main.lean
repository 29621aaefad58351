import ContractBindings.CommandLine.Program
import ContractBindings.Compile.Run
import ContractBindings.Disk.Picture

/-!
# The command line

Takes a picture of the directories that the arguments name, lets the program work on the picture,
and does to the disk what the program has done to it. All that is decided, the program decides.
-/

namespace ContractBindings.Main

/-- A picture of what stands at a path. The bytes of a file are read if its name is asked for;
nobody sees those of the others. -/
partial def picture (wanted : String → Bool) (name path : String) : IO Disk.Node := do
  let place := (← IO.currentDir) / path
  match (← place.symlinkMetadata).type with
  | .dir =>
    let mut entries := []
    for entry in ← place.readDir do
      let node ← picture wanted entry.fileName (Disk.Path.join path entry.fileName)
      entries := (entry.fileName, node) :: entries
    return .dir (Disk.Node.sorted entries)
  | .symlink => return .link (← IO.FS.realPath place).toString
  | .file => return .file (← if wanted name then IO.FS.readBinFile place else pure .empty)
  | .other => return .file .empty

/-- Adds a picture of a path to a disk, if anything is there. -/
def addPicture (wanted : String → Bool) (d : Disk) (path : String) : IO Disk := do
  try
    let real := (← IO.FS.realPath path).toString
    let node ← picture wanted "" real
    return { d with root := .dir (Disk.plant node d.root.entries (Disk.Path.names real)) }
  catch _ => return d

/-- The disk as far as an invocation sees it. A command that compiles may read everything in the
current directory. -/
def diskFor (i : CommandLine.Invocation) : IO Disk := do
  let here := Disk.Path.names (← IO.currentDir).toString
  let system := Host.root Host.programNames
  let empty : Disk := { root := .dir (Disk.plant (.dir []) system.entries here), here }
  let compiles := i.compileCmd.isSome
  let wanted (name : String) : Bool := compiles || name == Store.fileName i.contract
  ((if compiles then ["."] else []) ++ [i.artifacts, i.outDir]).foldlM (addPicture wanted) empty

/-- Makes a change to the disk itself. -/
def make : Disk.Change → IO Unit
  | .file path bytes => do
    IO.FS.createDirAll ((Disk.Path.parent? path).getD "/")
    IO.FS.writeBinFile path bytes
  | .directory path | .chain path _ _ => IO.FS.createDirAll path
  | .link path target => throw (IO.userError ("cannot link " ++ path ++ " to " ++ target))
  | .removal path => do
    match (← ((← IO.currentDir) / path).symlinkMetadata).type with
    | .dir => IO.FS.removeDirAll path
    | _ => IO.FS.removeFile path

/-- Runs the program on its arguments and says what it has to say. -/
def run (arguments : List String) : IO UInt32 := do
  let surroundings : CommandLine.Surroundings :=
    { compiler := Compile.Command.compiler
      outputWatched := ← (← IO.getStdout).isTty
      logWatched := ← (← IO.getStderr).isTty
      time := toString (← IO.monoMsNow) ++ "ms" }
  let before ←
    match CommandLine.parse arguments with
    | .ok i => diskFor i
    | .error _ => pure {}
  let response := CommandLine.execute arguments surroundings before
  for change in Disk.differences "/" before.root response.disk.root do
    make change
  IO.print response.output
  IO.eprint (CommandLine.logText arguments surroundings response.log ++ response.complaint)
  return response.exitCode.toUInt32

end ContractBindings.Main

/-- The program. -/
def main (arguments : List String) : IO UInt32 :=
  ContractBindings.Main.run arguments
