import ContractBindings.Utility.Blocks
import ContractBindings.Utility.Comparing
import ContractBindings.Utility.Computing
import ContractBindings.Utility.Copying
import ContractBindings.Utility.Cutting
import ContractBindings.Utility.Dates
import ContractBindings.Utility.Dumping
import ContractBindings.Utility.Edit.Run
import ContractBindings.Utility.Finding
import ContractBindings.Utility.Installing
import ContractBindings.Utility.Listing
import ContractBindings.Utility.Making
import ContractBindings.Utility.Passing
import ContractBindings.Utility.Paths
import ContractBindings.Utility.Reading
import ContractBindings.Utility.Saying
import ContractBindings.Utility.Searching
import ContractBindings.Utility.Sorting
import ContractBindings.Utility.Starting
import ContractBindings.Utility.Summing
import ContractBindings.Utility.Telling
import ContractBindings.Utility.Testing

/-!
# The programs of the host

The utilities by the names of their files.
-/

namespace ContractBindings.Host

open Process Utility

/-- The utilities that work alone, apart from those that sum up texts. -/
def plainUtilities : List (String × Program) :=
  [("[", Utility.test), ("arch", arch), ("base32", base32), ("base64", base64),
    ("basename", basename), ("cat", cat), ("chmod", chmod), ("cksum", cksum), ("cmp", cmp),
    ("comm", comm), ("cp", cp), ("cut", cut), ("date", date), ("dd", dd), ("diff", diff),
    ("dirname", dirname), ("echo", Utility.echo), ("egrep", grepWith "-E"), ("expand", expand),
    ("expr", expr), ("false", fail), ("fgrep", grepWith "-F"), ("fold", fold), ("grep", grep),
    ("groups", userGroups), ("head", head), ("hostname", hostname), ("id", userNumbers),
    ("install", install), ("link", Utility.link), ("ln", ln), ("logname", logname), ("ls", ls),
    ("mkdir", mkdir), ("mktemp", mktemp), ("mv", mv), ("nl", nl), ("nproc", nproc), ("od", od),
    ("paste", paste), ("printenv", printenv), ("printf", Utility.printf), ("pwd", Utility.pwd),
    ("readlink", readlink), ("realpath", realpath), ("rev", rev), ("rm", rm), ("rmdir", rmdir),
    ("sed", Edit.sed), ("seq", seq), ("sleep", sleep), ("sort", sort), ("sum", sum), ("sync", sync),
    ("tac", tac), ("tail", tail), ("tee", tee), ("test", Utility.test), ("touch", touch),
    ("tr", tr), ("true", succeed), ("truncate", truncate), ("tty", tty), ("uname", uname),
    ("uniq", uniq), ("unlink", unlink), ("users", users), ("wc", wc), ("which", which),
    ("who", users), ("whoami", whoami), ("yes", yes)]

/-- The utilities that work alone. -/
def utilities : List (String × Program) :=
  plainUtilities ++ digestKinds.map fun (name, kind) => (name ++ "sum", digestProgram kind)

/-- The utilities that start others. -/
def starters : List (String × (Starter → Call → Act Ending)) :=
  [("env", env), ("find", find), ("nice", nice), ("nohup", nohup), ("setsid", setsid),
    ("stdbuf", stdbuf), ("timeout", timeout), ("xargs", xargs)]

/-- The names of the shell. -/
def shells : List String := ["bash", "dash", "sh"]

/-- The names of all programs. -/
def programNames : List String :=
  shells ++ utilities.map (·.1) ++ starters.map (·.1)

end ContractBindings.Host
