import ContractBindings.Compile.Command
import ContractBindings.Compile.Compiler
import ContractBindings.Host.Run

/-!
# Commands as compilers

A command compiles by being run. It fails if it does not start, or if it ends in any way but with
the status zero; what it wrote is kept as diagnostics, complaints first.
-/

namespace ContractBindings.Compile

/-- How a program ended, in words. -/
def endingText : Process.Ending → String
  | .exit status => "exit status: " ++ toString status
  | .signal number =>
    "signal: " ++ toString number ++
      match Process.signalName? number with
      | some name => " (" ++ name ++ ")"
      | none => ""

/-- The failure of a command that did not start. -/
def Command.notStarted (c : Command) (fault : Host.StartFault) :
    Extraction.CompilationFailure where
  command := c.text
  status := "could not be started: " ++ fault.message

/-- The failure of a command that ended. -/
def Command.failed (c : Command) (o : Host.Outcome) : Extraction.CompilationFailure where
  command := c.text
  status := "failed with " ++ endingText o.ending
  diagnostics := Text.repaired o.complaints ++ Text.repaired o.output

/-- Runs a command. -/
def Command.run (c : Command) (d : Disk) : Compilation :=
  match Host.execute c.program c.args c.directory d with
  | .error fault =>
    { result := .error (c.notStarted fault), disk := d, log := [.compiling c.text] }
  | .ok o =>
    if o.ending = .exit 0 then
      { result := .ok (), disk := o.disk, log := [.compiling c.text, .compiled c.text] }
    else { result := .error (c.failed o), disk := o.disk, log := [.compiling c.text] }

/-- The compiler that runs a command at each call. -/
def Command.compiler (c : Command) : Compiler := fun _ d => c.run d

end ContractBindings.Compile
