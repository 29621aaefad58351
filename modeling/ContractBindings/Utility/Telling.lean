import ContractBindings.Utility.Lines

/-!
# Who and where

The utilities that tell about the user, who is always the first one, and about the machine.
-/

namespace ContractBindings.Utility

open Process

/-- Complains about the first operand. -/
def refuseOperands (c : Call) (a : Arguments) (status : Nat := 1) : Act Unit := do
  if let some operand := a.operands.head? then
    c.misuse status ("extra operand " ++ textQuoted operand)

/-- Tells who uses the machine. -/
def whoami : Program := fun c => do
  refuseOperands c (← understand c [])
  Act.sayLine "root"
  return 0

/-- Tells under which name the user came, which nobody knows. -/
def logname : Program := fun c => do
  refuseOperands c (← understand c [])
  c.complain "no login name"
  return 1

/-- The name or number of a user that there is. -/
def isUser (name : String) : Bool := name = "root" || name = "0"

/-- Tells to which groups users belong. -/
def userGroups : Program := fun c => do
  let a ← understand c []
  if a.operands.isEmpty then
    Act.sayLine "root"
    return 0
  forEach (fun name => do
    if isUser name then
      Act.sayLine (name ++ " : root")
      return 0
    c.complain (textQuoted name ++ ": no such user")
    return 1) a.operands

/-- Tells the numbers of users. -/
def userNumbers : Program := fun c => do
  let a ← understand c
    [named 'u' "user", named 'g' "group", named 'G' "groups", named 'n' "name", named 'r' "real",
      named 'z' "zero", named 'Z' "context", { letter := some 'a' }]
  let wanted := ["u", "g", "G", "Z"].filter a.has
  if 1 < wanted.length then
    c.complain "cannot print \"only\" of more than one choice"
    throw 1
  let ending := if a.has "z" then "\x00" else "\n"
  if wanted.isEmpty && (a.has "n" || a.has "r") then
    c.complain "cannot print only names or real IDs in default format"
    throw 1
  if wanted.isEmpty && a.has "z" then
    c.complain "option --zero not permitted in default format"
    throw 1
  if a.has "Z" then
    c.complain "--context (-Z) works only on an SELinux-enabled kernel"
    throw 1
  let text :=
    if wanted.isEmpty then "uid=0(root) gid=0(root) groups=0(root)"
    else if a.has "n" then "root" else "0"
  let names := if a.operands.isEmpty then ["root"] else a.operands
  forEach (fun name => do
    if isUser name then
      Act.say (text ++ ending)
      return 0
    c.complain (textQuoted name ++ ": no such user")
    return 1) names

/-- Tells the terminal, which there is not. -/
def tty : Program := fun c => do
  let a ← understand c [named 's' "silent", word "quiet"] 2
  refuseOperands c a 2
  if !a.has "s" && !a.has "quiet" then Act.sayLine "not a tty"
  return 1

/-- The facts about the machine, by the options that ask for them, in the order in which they are
told. -/
def machineFacts : List (String × String) :=
  [("s", "Linux"), ("n", "localhost"), ("r", "6.0.0"), ("v", "#1 SMP PREEMPT_DYNAMIC"),
    ("m", "x86_64"), ("p", "x86_64"), ("i", "x86_64"), ("o", "GNU/Linux")]

/-- Tells facts about the machine. -/
def uname : Program := fun c => do
  let a ← understand c
    [named 'a' "all", named 's' "kernel-name", named 'n' "nodename", named 'r' "kernel-release",
      named 'v' "kernel-version", named 'm' "machine", named 'p' "processor",
      named 'i' "hardware-platform", named 'o' "operating-system"]
  refuseOperands c a
  let asked := machineFacts.filter fun f => a.has "a" || a.has f.1
  let asked := if asked.isEmpty then machineFacts.take 1 else asked
  Act.sayLine (String.intercalate " " (asked.map (·.2)))
  return 0

/-- Tells the kind of the machine. -/
def arch : Program := fun c => do
  refuseOperands c (← understand c [])
  Act.sayLine "x86_64"
  return 0

/-- Tells the name of the machine. -/
def hostname : Program := fun c => do
  let _ ← understand c (letters "adfisI")
  Act.sayLine "localhost"
  return 0

/-- Tells how many processors there are. -/
def nproc : Program := fun c => do
  let a ← understand c [word "all", word "ignore" .something]
  refuseOperands c a
  let ignored ←
    match a.value? "ignore" with
    | none => pure 0
    | some text =>
      match natural? text with
      | some n => pure n
      | none =>
        c.complain ("invalid number: " ++ textQuoted text)
        throw 1
  Act.sayLine (toString (max 1 (4 - ignored)))
  return 0

/-- Tells who is there, which is nobody. -/
def users : Program := fun c => do
  let _ ← understand c (letters "abdHlmpqrstTuw")
  return 0

/-- Writes everything to the disks, where it is already. -/
def sync : Program := fun c => do
  let a ← understand c [named 'd' "data", named 'f' "file-system"]
  if a.operands.isEmpty && (a.has "d") then
    c.misuse 1 "--data needs at least one argument"
  forEach (fun path => do
    match ← Act.look path with
    | .ok _ => return 0
    | .error fault =>
      c.complain ("error opening " ++ shellQuoted path ++ ": " ++ fault.reason)
      return 1) a.operands

end ContractBindings.Utility
