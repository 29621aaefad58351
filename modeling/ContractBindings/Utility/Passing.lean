import ContractBindings.Utility.Making

/-!
# Passing files

Files that are made for a while, and names that are made for files: `mktemp` and `link`.
-/

namespace ContractBindings.Utility

open Process

/-! ## Names that are free -/

/-- The characters of names that nobody chose. -/
def nameLetters : List Char :=
  "0123456789abcdefghijklmnopqrstuvwxyzABCDEFGHIJKLMNOPQRSTUVWXYZ".toList

/-- The name of a number, in a number of characters. -/
def nameOf : Nat → Nat → List Char
  | 0, _ => []
  | count + 1, n =>
    nameOf count (n / nameLetters.length) ++ [nameLetters.getD (n % nameLetters.length) '0']

/-- A template for names: what stands before the characters that are chosen, how many these are, and
what stands behind them. -/
structure Template where
  start : String
  count : Nat
  ending : String

namespace Template

/-- The template of a text: what is chosen are the last letters X of it, unless the ending is given
apart. -/
def ofText (text : String) (ending : Option String) : Template :=
  let cs := text.toList.reverse
  let after :=
    if ending.isSome then []
    else if cs.contains 'X' then cs.takeWhile (· ≠ 'X')
    else []
  let chosen := (cs.drop after.length).takeWhile (· = 'X')
  { start := String.ofList (cs.drop (after.length + chosen.length)).reverse
    count := chosen.length
    ending := ending.getD (String.ofList after.reverse) }

/-- The name with a number. -/
def name (t : Template) (n : Nat) : String :=
  t.start ++ String.ofList (nameOf t.count n) ++ t.ending

/-- The template as it was written. -/
def text (t : Template) : String :=
  t.start ++ String.ofList (List.replicate t.count 'X') ++ t.ending

end Template

/-- The first name of a template, from a number on, that is free. -/
def freeName (t : Template) : Nat → Nat → Act String
  | 0, n => return t.name n
  | fuel + 1, n => do
    match ← Act.look (t.name n) .stay with
    | .ok _ => freeName t fuel (n + 1)
    | .error _ => return t.name n

/-- Makes a file or a directory with a name that is free, and says the name. -/
def mktemp : Program := fun c => do
  let a ← understand c
    [named 'd' "directory", named 'u' "dry-run", named 'q' "quiet", word "suffix" .something,
      { letter := some 'p', takes := .something }, word "tmpdir" .perhaps, { letter := some 't' }]
  if 1 < a.operands.length then c.misuse 1 "too many templates"
  let given := a.operands.head?
  let text := given.getD "tmp.XXXXXXXXXX"
  let ending := a.value? "suffix"
  if ending.isSome && !text.endsWith "X" then
    c.complain ("with --suffix, template " ++ textQuoted text ++ " must end in X")
    throw 1
  let template := Template.ofText text ending
  if template.ending.contains '/' then
    c.complain ("invalid suffix " ++ textQuoted template.ending ++ ", contains directory separator")
    throw 1
  if template.count < 3 then
    c.complain ("too few X's in template " ++ textQuoted text)
    throw 1
  let usual := ((← get).context.environment.lookup "TMPDIR").getD ""
  let usual := if usual.isEmpty then "/tmp" else usual
  let named := ((a.value? "p").or (a.value? "tmpdir")).filter (· ≠ "")
  let directory : Option String ←
    if a.has "t" then do
      if text.contains '/' then
        c.complain ("invalid template, " ++ textQuoted text ++ ", contains directory separator")
        throw 1
      pure (some (if usual = "/tmp" then named.getD usual else usual))
    else if given.isNone || a.has "p" || a.has "tmpdir" then do
      if text.startsWith "/" then
        c.complain ("invalid template, " ++ textQuoted text ++
          "; with --tmpdir, it may not be absolute")
        throw 1
      pure (some (named.getD usual))
    else pure none
  let start :=
    match directory with
    | none => ""
    | some path => if path.endsWith "/" then path else path ++ "/"
  let template := { template with start := start ++ template.start }
  let m ← get
  let path ← freeName template 10000 (m.world.clock * 7919 + m.world.disk.lastIdentity)
  let kind := if a.has "d" then "directory" else "file"
  let made : Except Disk.Fault Unit ←
    if a.has "u" then pure (.ok ())
    else if a.has "d" then Act.edit (.createDir (Machine.pathText path))
    else do
      match ← Act.openPath { writes := true, creates := true } path with
      | .error fault => pure (.error fault)
      | .ok _ =>
        if let .ok (place, _) := ← Act.look path then
          changeAttributes place fun attributes => { attributes with mode := 0o600 }
        pure (.ok ())
  match made with
  | .ok () =>
    Act.sayLine path
    return 0
  | .error fault =>
    if !a.has "q" then
      c.complain ("failed to create " ++ kind ++ " via template " ++ textQuoted template.text ++
        ": " ++ fault.reason)
    return 1

/-! ## Further names -/

/-- Gives a file a further name. -/
def link : Program := fun c => do
  let a ← understand c []
  match a.operands with
  | [] => missingOperand c
  | [source] => c.misuse 1 ("missing operand after " ++ textQuoted source)
  | [source, path] =>
    let refuse (fault : Disk.Fault) : Act Nat := do
      c.complain ("cannot create link " ++ shellQuoted path ++ " to " ++ shellQuoted source ++
        ": " ++ fault.reason)
      return 1
    match ← Act.look source .stay with
    | .error fault => refuse fault
    | .ok (place, node) =>
      if node.isDir then return ← refuse .notPermitted
      let _ ← Act.identityAt place
      let node := ((← get).world.disk.root.get? place).getD node
      match ← Act.onDisk (fun d p => d.walk p .stay) path with
      | .error fault => refuse fault
      | .ok (.node ..) => refuse .alreadyExists
      | .ok (.vacant place name) =>
        if path.endsWith "/" then return ← refuse .notFound
        match ← Act.edit (.make place name node) with
        | .ok () => return 0
        | .error fault => refuse fault
  | _ :: _ :: extra :: _ => extraOperand c extra

end ContractBindings.Utility
