/-!
# Paths

A path is a text whose parts are parted by slashes. Joining and taking the parent work on the text
alone; only a disk can say where a path leads.

* `join`: a path below another one.
* `parent?`: the path without its last part; `ancestors`: what that leads to, over and over.
* `names`: the parts between the slashes.
* `steps`: the parts that a walk along the path takes.
-/

namespace ContractBindings.Disk.Path

/-- The parts between slashes, empty ones included. -/
def parts : List Char → List (List Char)
  | [] => [[]]
  | c :: rest =>
    if c = '/' then [] :: parts rest
    else
      match parts rest with
      | [] => [[c]]
      | part :: others => (c :: part) :: others

/-- The path starts at the root. -/
def isAbsolute (path : String) : Bool :=
  path.toList.head? == some '/'

/-- The path ends in a slash. -/
def endsInSlash (path : String) : Bool :=
  path.toList.getLast? == some '/'

/-- The path `name` below `base`. An absolute path is below no other, and the empty path is where
one already is. -/
def join (base name : String) : String :=
  if isAbsolute name then name
  else if base.isEmpty || endsInSlash base then base ++ name
  else base ++ "/" ++ name

/-- The parts that are not empty. -/
def names (path : String) : List String :=
  ((parts path.toList).filter (!·.isEmpty)).map String.ofList

/-- The parts that a walk takes. After a slash at the end stands an empty part, which asks for a
directory as `.` does. -/
def steps (path : String) : List String :=
  names path ++ if endsInSlash path then [""] else []

/-- A part that does not count at the end of a path. -/
def isIdle (part : List Char) : Bool :=
  part.isEmpty || part == ['.']

/-- The parts after the first one, without the idle ones at their end. -/
def withoutIdleEnd : List (List Char) → List (List Char)
  | [] => []
  | first :: rest => first :: (rest.reverse.dropWhile isIdle).reverse

/-- The path of parts. A single empty part is the root. -/
def ofParts (ps : List (List Char)) : String :=
  if ps = [[]] then "/" else String.ofList (List.intercalate ['/'] ps)

/-- The path without its last part. The root has no parent, and neither has the empty path. -/
def parent? (path : String) : Option String :=
  if path.isEmpty then none
  else
    match withoutIdleEnd (parts path.toList) with
    | [] => none
    | [only] => if only.isEmpty then none else some ""
    | several => some (ofParts (withoutIdleEnd several.dropLast))

/-- The path, its parent, the parent of that and so on, without the empty path; each is shorter than
the one before, so that the first argument can count them. -/
def ancestorsWithin : Nat → String → List String
  | 0, _ => []
  | count + 1, path =>
    if path.isEmpty then []
    else
      path ::
        match parent? path with
        | some parent => ancestorsWithin count parent
        | none => []

/-- The path, its parent, the parent of that and so on, without the empty path. -/
def ancestors (path : String) : List String :=
  ancestorsWithin path.length path

/-- The longest path, in bytes, that the operating system takes. -/
def maxBytes : Nat := 4095

/-- The longest name of a file, in bytes. -/
def maxNameBytes : Nat := 255

end ContractBindings.Disk.Path
