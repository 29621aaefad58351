import ContractBindings.Shell.Expansion

/-!
# Redirections

Streams led to and from files, documents and other streams. `Sh.plan` expands what a redirection
says, and `Sh.redirect` carries it out; what the streams led to before is given back, so that it can
be put back.
-/

namespace ContractBindings.Shell

open Process

/-- A redirection after expansion. -/
inductive Plan where
  | file (stream : Nat) (direction : Direction) (path : String)
  /-- To where another stream leads, or nowhere. -/
  | copy (stream : Nat) (target : Option Nat)
  | document (stream : Nat) (index : Nat)

/-- Streams with what they led to before, the last change first. -/
abbrev FormerStreams := List (Nat × Option Nat)

namespace Sh

/-- Expands what redirections say. -/
def plan (capture : Capture) : List Redirection → Sh (List Plan)
  | [] => return []
  | r :: rest => do
    let first : Plan ←
      match r with
      | .file stream direction target => do
        pure (.file stream direction (← text capture .start target))
      | .document stream index => pure (.document stream index)
      | .copy stream target => do
        match (← text capture .start target).toList with
        | ['-'] => pure (.copy stream none)
        | [c] =>
          if c.isDigit then pure (.copy stream (some (c.toNat - '0'.toNat)))
          else refuse
        | _ => refuse
    return first :: (← plan capture rest)
where
  /-- Complains of a stream, on the line up to which the script has been read. -/
  refuse : Sh Plan := do
    modify fun s => { s with line := s.readLine }
    fault "Syntax error: Bad fd number"

/-- Opens a file for a redirection, or complains. -/
def openFor (direction : Direction) (path : String) : Sh Nat := do
  let refuse (what otherwise : String) (f : Disk.Fault) : Sh Nat :=
    let reason := if f = .notFound || f = .notDirectory then otherwise else f.reason
    fault ("cannot " ++ what ++ " " ++ path ++ ": " ++ reason)
  let attempt (mode : OpenMode) : Sh Nat := do
    match ← carry (Act.openPath mode path) with
    | .ok index => return index
    | .error f =>
      if mode.creates then refuse "create" "Directory nonexistent" f
      else refuse "open" "No such file" f
  match direction with
  | .input => attempt .reading
  | .both => attempt { reads := true, writes := true, creates := true }
  | .append => attempt .appending
  | .overwrite => attempt .writing
  | .output =>
    let isKept := (← isOn 'C') && (← get).machine.disk.isFile (Machine.pathText path)
    if isKept then fault ("cannot create " ++ path ++ ": File exists")
    attempt .writing

/-- Lets a stream lead to an open file, and notes where it led before. -/
def lead (stream : Nat) (index : Option Nat) (former : FormerStreams) : Sh FormerStreams := do
  let before := (← get).machine.context.streams.lookup stream
  carry (Act.setStream stream index)
  return (stream, before) :: former

/-- Puts streams back. -/
def putStreamsBack : FormerStreams → Sh Unit
  | [] => return
  | (stream, index) :: rest => do
    carry (Act.setStream stream index)
    putStreamsBack rest

/-- Carries out a redirection. -/
def redirectOne (capture : Capture) (former : FormerStreams) : Plan → Sh FormerStreams
  | .file stream direction path => do
    lead stream (some (← openFor direction path)) former
  | .copy stream none => lead stream none former
  | .copy stream (some target) => do
    if target = stream then return former
    match (← get).machine.context.streams.lookup target with
    | some index => lead stream (some index) former
    | none => fault (toString target ++ ": Bad file descriptor")
  | .document stream index => do
    let text ← document capture ((← get).documents[index]?.getD [])
    let buffer ← carry (Act.addBuffer text)
    let opened ← carry (Act.addOpenFile { channel := .buffer buffer, reads := true })
    lead stream (some opened) former

/-- Carries out redirections in order. If one cannot be carried out, that is complained about, and
the second part of the result is false. -/
def redirect (capture : Capture) (plans : List Plan) (former : FormerStreams) :
    Sh (FormerStreams × Bool) := do
  match plans with
  | [] => return (former, true)
  | p :: rest =>
    let next? : Option FormerStreams ←
      tryCatch (some <$> redirectOne capture former p) fun
        | .fault => return none
        | halt => throw halt
    match next? with
    | some former => redirect capture rest former
    | none => return (former, false)

end Sh

end ContractBindings.Shell
