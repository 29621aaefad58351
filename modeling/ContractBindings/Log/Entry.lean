import ContractBindings.Extraction.Error
import ContractBindings.Extraction.Stage

/-!
# The log

What an extraction tells about itself while it runs. An entry has a level, a message and named
values; all of them follow from what happened.
-/

namespace ContractBindings.Log

/-- How much an entry matters, least first. -/
inductive Level where
  | debug
  | info
  | warn
  deriving DecidableEq, Repr

/-- The name of a level. -/
def Level.name : Level → String
  | .debug => "DEBUG"
  | .info => "INFO"
  | .warn => "WARN"

/-- The levels by weight. -/
def Level.weight : Level → Nat
  | .debug => 1
  | .info => 2
  | .warn => 3

/-- What happened. -/
inductive Entry where
  /-- The directory of artifacts is missing, or is no directory. -/
  | missingRoot (root : String)
  /-- A search leaves out a directory. -/
  | unreadableDirectory (path : String) (fault : Disk.Fault)
  /-- An artifact is at one of the places where compilers put it. -/
  | conventionalPath (path : String)
  /-- It is at none of them, so that a search begins. -/
  | searching (root file : String)
  /-- An artifact is read. -/
  | loaded (path contract : String)
  /-- An interface is sorted. -/
  | classified (functions events : Nat) (constructor : Bool) (others : Nat)
  /-- An event has the name of an earlier one. -/
  | repeatedEvent (event : String)
  /-- A binding is made. -/
  | generated (contract : String) (functions events : Nat)
  /-- A compiler starts. -/
  | compiling (command : String)
  /-- It has succeeded. -/
  | compiled (command : String)
  /-- The extraction has its artifact. -/
  | found (path : String)
  /-- The extraction goes from one stage to another. -/
  | entered (before after : Extraction.Stage)
  /-- An output is written. -/
  | wrote (path : String) (bytes : Nat)
  /-- The extraction is done. -/
  | completed (contract : String) (files : Nat)
  /-- The extraction ends early. -/
  | failed (stage : Extraction.Stage) (error : Extraction.Error)

namespace Entry

/-- How much an entry matters. -/
def level : Entry → Level
  | unreadableDirectory .. | repeatedEvent .. => .warn
  | compiling .. | found .. | completed .. => .info
  | _ => .debug

/-- What an entry says. -/
def message : Entry → String
  | missingRoot .. => "artifacts directory does not exist"
  | unreadableDirectory .. => "skipping unreadable directory"
  | conventionalPath .. => "artifact found at conventional path"
  | searching .. => "searching artifacts tree"
  | loaded .. => "loaded artifact"
  | classified .. => "classified interface"
  | repeatedEvent .. => "skipping overloaded event in events map"
  | generated .. => "generated typescript binding"
  | compiling .. => "compiling contracts"
  | compiled .. => "compilation finished"
  | found .. => "found artifact"
  | entered .. => "stage transition"
  | wrote .. => "wrote output"
  | completed .. => "extraction completed"
  | failed .. => "extraction failed"

/-- The named values of an entry. -/
def fields : Entry → List (String × String)
  | missingRoot root => [("root", root)]
  | unreadableDirectory path fault => [("path", path), ("error", fault.message)]
  | conventionalPath path => [("path", path)]
  | searching root file => [("root", root), ("file", file)]
  | loaded path contract => [("path", path), ("contract", contract)]
  | classified functions events constructor others =>
    [("functions", toString functions), ("events", toString events),
      ("constructor", toString constructor), ("others", toString others)]
  | repeatedEvent event => [("event", event)]
  | generated contract functions events =>
    [("contract", contract), ("functions", toString functions), ("events", toString events)]
  | compiling command => [("command", command)]
  | compiled command => [("command", command)]
  | found path => [("path", path)]
  | entered before after => [("from", before.name), ("to", after.name)]
  | wrote path bytes => [("path", path), ("bytes", toString bytes)]
  | completed contract files => [("contract", contract), ("files", toString files)]
  | failed stage error => [("stage", stage.name), ("error", error.message)]

end Entry

end ContractBindings.Log
