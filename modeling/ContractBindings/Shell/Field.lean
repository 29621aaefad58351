import ContractBindings.Process.Machine
import ContractBindings.Text.Pattern

/-!
# Fields

What becomes of a word after its expansion: it is split where blanks stand in what was put in, and
each field that is a pattern is replaced by the paths that match it.
-/

namespace ContractBindings.Shell

/-- A character of an expanded word. -/
inductive Cell where
  /-- A character, which may be protected so that it means nothing in a pattern. -/
  | char (c : Char) (isProtected : Bool)
  /-- A quote, which keeps an empty field. -/
  | mark
  /-- Between two arguments. -/
  | gap
  deriving DecidableEq, Repr

/-- Where a part of an expanded word can be split. -/
inductive Splitting where
  /-- Nowhere. -/
  | never
  /-- Where characters stand that separate fields. -/
  | separators
  /-- Between arguments only. -/
  | gaps
  deriving DecidableEq, Repr

/-- A part of an expanded word. -/
structure Part where
  cells : List Cell
  splitting : Splitting := .never

/-- The cells of a text. -/
def cellsOf (text : String) (isProtected : Bool) : List Cell :=
  text.toList.map (.char · isProtected)

/-- The characters of cells. -/
def textOf (cells : List Cell) : String :=
  String.ofList (cells.filterMap fun cell =>
    match cell with
    | .char c _ => some c
    | _ => none)

namespace Field

/-- The state of splitting. -/
structure State where
  /-- The fields that are complete, the last first. -/
  fields : List (List Cell) := []
  /-- The field that is being read, its last cell first. -/
  current : List Cell := []
  /-- Blanks have just ended a field. -/
  afterBlank : Bool := false
  /-- The part before this one could be split between arguments only. -/
  afterGaps : Bool := false
  /-- How many more fields there can be, if that is limited. -/
  most : Option Nat := none
  /-- The length of the last field without what may have to be cut off. -/
  kept : Option Nat := none

/-- Takes a cell of a part that can be split. -/
def step (separators : List Char) (splitting : Splitting) (s : State) (cell : Cell) : State :=
  let (separates, blank) : Bool × Bool :=
    match cell with
    | .gap => (true, true)
    | .mark => (false, false)
    | .char c _ =>
      let separates := splitting = .separators && separators.contains c
      (separates, separates && (c = ' ' || c = '\t' || c = '\n'))
  if s.most = some 0 then
    let kept :=
      if blank then some (s.kept.getD s.current.length)
      else if separates && s.afterBlank then s.kept else none
    let afterBlank := blank && s.afterBlank
    { s with current := cell :: s.current, kept, afterBlank }
  else if s.afterBlank && blank then { s with current := [] }
  else if s.afterBlank && separates then { s with current := [], afterBlank := false }
  else if separates then
    let afterBlank := if s.afterGaps || splitting = .gaps then s.afterBlank else blank
    if s.current.isEmpty && afterBlank then { s with afterBlank }
    else if s.most = some 1 then
      let current := cell :: s.current
      { s with current, afterBlank, most := some 0, kept := some s.current.length }
    else
      let fields := s.current.reverse :: s.fields
      { s with fields, current := [], afterBlank, most := s.most.map (· - 1) }
  else { s with current := cell :: s.current, afterBlank := false }

/-- Takes a part. -/
def stepPart (separators : List Char) (s : State) (part : Part) : State :=
  match part.splitting with
  | .never => { s with current := part.cells.reverse ++ s.current }
  | splitting =>
    let after := part.cells.foldl (step separators splitting) { s with afterBlank := false }
    { after with afterGaps := splitting = .gaps }

/-- The fields of an expanded word, at most so many. -/
def split (separators : String) (most : Option Nat) (parts : List Part) : List (List Cell) :=
  let s := parts.foldl (stepPart separators.toList) { most }
  let last := s.current.reverse
  let last := s.kept.elim last last.take
  if last.isEmpty && !s.afterGaps then s.fields.reverse else (last :: s.fields).reverse

/-! ## Paths -/

/-- The characters that need protection in a pattern. -/
def isSpecial (c : Char) : Bool :=
  c ∈ ['!', '*', '?', '[', ']', '=', '~', ':', '/', '-', '\\']

/-- The pattern of cells. -/
def patternOf : List Cell → List Char
  | [] => []
  | .char '\\' false :: .char c true :: rest => '\\' :: c :: patternOf rest
  | .char c isProtected :: rest =>
    if isProtected && isSpecial c then '\\' :: c :: patternOf rest else c :: patternOf rest
  | _ :: rest => patternOf rest

/-- A bracket is closed before the next slash. -/
def closes : List Char → Bool
  | '\\' :: '/' :: _ => false
  | '\\' :: _ :: ']' :: _ => true
  | '\\' :: _ :: rest => closes rest
  | '/' :: _ => false
  | _ :: ']' :: _ => true
  | _ :: rest => closes rest
  | [] => false

/-- The pattern has a character that stands for others. -/
def isPattern : List Char → Bool
  | [] => false
  | '\\' :: _ :: rest => isPattern rest
  | '*' :: _ | '?' :: _ => true
  | '[' :: rest =>
    closes (match rest with
      | '!' :: rest => rest
      | rest => rest) || isPattern rest
  | _ :: rest => isPattern rest

/-- The pattern without what protects its characters. -/
def plain : List Char → List Char
  | '\\' :: c :: rest => c :: plain rest
  | c :: rest => c :: plain rest
  | [] => []

/-- Splits a pattern at its slashes, each of which goes to the part before it. -/
def components : List Char → List Char → List (List Char)
  | current, [] => [current.reverse]
  | current, '\\' :: '/' :: rest => ('/' :: current).reverse :: components [] rest
  | current, '\\' :: c :: rest => components (c :: '\\' :: current) rest
  | current, '/' :: rest => ('/' :: current).reverse :: components [] rest
  | current, c :: rest => components (c :: current) rest

/-- The names in the directory at a path. -/
def namesIn (d : Disk) (path : String) : List String :=
  match d.node (Process.Machine.pathText (if path.isEmpty then "." else path)) with
  | .ok node =>
    if node.isDir then ["..", "."] ++ node.entries.map (Text.octets ·.1) else []
  | .error _ => []

/-- The paths that match the components of a pattern, below a path. -/
def pathsFrom (d : Disk) (path : String) : List (List Char) → List String
  | [] =>
    match d.walk (Process.Machine.pathText path) .stay with
    | .ok (.node _ _) => [path]
    | _ => []
  | component :: rest =>
    if isPattern component then
      let slashed := component.getLast? = some '/'
      let pattern := if slashed then component.dropLast else component
      let hidden := (plain pattern).head? = some '.'
      let names := (namesIn d path).filter fun name =>
        (hidden || name.toList.head? ≠ some '.') && Text.Pattern.isMatch pattern name.toList
      names.flatMap fun name => pathsFrom d (path ++ name ++ if slashed then "/" else "") rest
    else pathsFrom d (path ++ String.ofList (plain component)) rest

/-- The paths that match a pattern, in order. -/
def paths (d : Disk) (pattern : List Char) : List String :=
  if isPattern pattern then
    (pathsFrom d "" (components [] pattern)).mergeSort fun a b => decide (a ≤ b)
  else []

/-- The texts of a field: the paths that match it, or itself. -/
def texts (d : Disk) (field : List Cell) : List String :=
  match paths d (patternOf field) with
  | [] => [textOf field]
  | found => found

end Field

end ContractBindings.Shell
