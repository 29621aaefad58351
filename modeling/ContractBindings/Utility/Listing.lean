import ContractBindings.Text.Pattern
import ContractBindings.Utility.Dates
import ContractBindings.Utility.Sorting

/-!
# Listings

`ls` says what is in directories.
-/

namespace ContractBindings.Utility

open Process
open Disk (Node)

/-- A name with what stands under it. -/
structure Entry where
  /-- The name, as it is said. -/
  name : String
  /-- A path that leads there. -/
  path : String
  node : Node
  /-- What a link leads to. -/
  target : Option Node := none

/-- How entries are laid out. -/
inductive Layout where
  | lines
  | commas
  | columns
  /-- Columns that are filled line by line. -/
  | rows
  | long
  deriving DecidableEq

/-- How `ls` works. -/
structure ListManner where
  /-- Names that begin with a point are said, too. -/
  hidden : Bool := false
  /-- So are the directory itself and the one above it. -/
  dots : Bool := false
  deep : Bool := false
  /-- Directories are said as names. -/
  asNames : Bool := false
  follows : Bool := false
  reverse : Bool := false
  /-- The letter for an order other than that of the names. -/
  order : Option Char := none
  layout : Layout := .lines
  /-- Marks behind names: `F` for all, `t` for those that are no programs, `p` for directories. -/
  marks : Option Char := none
  quote : Option Char := none
  blocks : Bool := false
  width : Nat := 80
  ignored : List String := []
  directoriesFirst : Bool := false
  owner : Bool := true
  group : Bool := true
  numericIds : Bool := false
  /-- The time at which the listing is made. -/
  now : Int := 0

namespace ListManner

/-- The blocks that a node takes. -/
def blocksOf : Node → Nat
  | .link _ | .device _ => 0
  | node => (node.byteSize + 4095) / 4096 * 4

/-- The mark behind a name. -/
def mark (m : ListManner) (e : Entry) : String :=
  match m.marks, e.node with
  | none, _ => ""
  | some _, .dir _ | some _, .sealed .. => "/"
  | some 'p', _ => ""
  | some _, .link _ => "@"
  | some 'F', .file _ attributes => if attributes.mode &&& 0o111 ≠ 0 then "*" else ""
  | _, _ => ""

/-- A name as it is said. -/
def spelled (m : ListManner) (name : String) : String :=
  let escaped (quoted : Bool) (c : Char) : List Char :=
    if c = '\\' || (quoted && c = '"') || (!quoted && c = ' ') then ['\\', c]
    else if isShown c then [c]
    else escapeText c
  match m.quote with
  | some 'Q' => "\"" ++ String.ofList (name.toList.flatMap (escaped true)) ++ "\""
  | some 'b' => String.ofList (name.toList.flatMap (escaped false))
  | some 'q' => String.ofList (name.toList.map fun c => if isShown c then c else '?')
  | some 's' => shellText name
  | some 'S' => shellQuoted name
  | _ => name

/-- The blocks before a name, if they are asked for. -/
def blocksText (m : ListManner) (e : Entry) : String :=
  if m.blocks then toString (blocksOf e.node) ++ " " else ""

/-- All that is said for an entry in a short layout. -/
def short (m : ListManner) (e : Entry) : String := m.blocksText e ++ m.spelled e.name ++ m.mark e

/-- The time of an entry: with the hour if it is of the last half year, and else with the year. -/
def timeText (m : ListManner) (e : Entry) : String :=
  let time := changeTime e.node
  let isRecent := time ≤ m.now && m.now - 15778476000 < time
  Text.Moment.format (if isRecent then "%b %e %H:%M" else "%b %e  %Y") time

/-- All that is said for an entry in the long layout. -/
def long (m : ListManner) (widest : Nat) (e : Entry) : String :=
  let (letters, links) : String × Nat :=
    match e.node with
    | .file _ attributes => ("-" ++ modeText attributes.mode, 1)
    | .link _ => ("l" ++ modeText 0o777, 1)
    | .dir entries => ("d" ++ modeText 0o755, 2 + (entries.filter (·.2.isDir)).length)
    | .sealed .. => ("d" ++ modeText 0o555, 2)
    | .device _ => ("c" ++ modeText 0o666, 1)
  let who := if m.numericIds then "0 " else "root "
  let target :=
    match e.node with
    | .link target => " -> " ++ Text.octets target
    | _ => m.mark e
  m.blocksText e ++ letters ++ " " ++ toString links ++ " " ++ (if m.owner then who else "") ++
    (if m.group then who else "") ++ padded widest (toString (e.node.byteSize)) ++
    " " ++ m.timeText e ++ " " ++ m.spelled e.name ++ target

/-- Blanks from one column to another, with tabs where they fit. -/
def gap : Nat → Nat → Nat → List Char
  | 0, _, _ => []
  | fuel + 1, first, last =>
    if last ≤ first then []
    else if (first + 1) / 8 < last / 8 then '\t' :: gap fuel (first + 8 - first % 8) last
    else ' ' :: gap fuel (first + 1) last

/-- The entries of a number of columns: for each column the texts in it. -/
def inColumns (byRows : Bool) (texts : List String) (count : Nat) : List (List String) :=
  let rows := (texts.length + count - 1) / count
  (List.range count).map fun column =>
    if byRows then
      (List.range rows).filterMap fun row => texts[row * count + column]?
    else (texts.drop (column * rows)).take rows

/-- The widths of columns, each with the gap after it. -/
def widths (columns : List (List String)) : List Nat :=
  let own := columns.map fun c => (c.map (·.length)).max?.getD 0
  own.dropLast.map (· + 2) ++ own.getLast?.toList

/-- Lays texts out in columns. -/
def columned (m : ListManner) (byRows : Bool) (texts : List String) : String :=
  let fits (count : Nat) : Bool :=
    let columns := inColumns byRows texts count
    columns.all (!·.isEmpty) &&
      ((widths columns).map (max 3)).foldl (· + ·) 0 < m.width
  let most := max 1 (min texts.length (m.width / 3))
  let count := ((List.range most).reverse.map (· + 1)).find? fits |>.getD 1
  let columns := inColumns byRows texts count
  let own := (widths columns).map (max 3)
  let rows := (columns.map (·.length)).max?.getD 0
  let line (row : Nat) : String :=
    let rec go (start : Nat) (at_ : Nat) : List (List String) → List Nat → List Char
      | column :: columns, width :: widths =>
        match column[row]? with
        | none => []
        | some text =>
          gap 200 at_ start ++ text.toList ++
            go (start + width) (start + text.length) columns widths
      | _, _ => []
    String.ofList (go 0 0 columns own) ++ "\n"
  String.join ((List.range rows).map line)

/-- Lays texts out with commas between them. -/
def commaed (m : ListManner) (texts : List String) : String :=
  let rec go (column : Nat) : List String → String
    | [] => "\n"
    | text :: rest =>
      let separator := if rest.isEmpty then "" else ","
      let next := column + text.length + separator.length
      text ++ separator ++
        (match rest with
        | [] => go next rest
        | following :: _ =>
          if next + 1 + following.length + (if rest.length = 1 then 0 else 1) < m.width then
            " " ++ go (next + 1) rest
          else "\n" ++ go 0 rest)
  if texts.isEmpty then "" else go 0 texts

/-- Entries in the order that is asked for. -/
def ordered (m : ListManner) (entries : List Entry) : List Entry :=
  let extension (e : Entry) : String :=
    match (e.name.toList.reverse.takeWhile (· ≠ '.')) with
    | rest => if e.name.contains '.' then String.ofList ('.' :: rest.reverse) else ""
  let order (a b : Entry) : Ordering :=
    let names := compareTexts a.name.toList b.name.toList
    match m.order with
    | some 'S' => (compare b.node.byteSize a.node.byteSize).then names
    | some 't' => (compare b.node.time a.node.time).then names
    | some 'X' => (compareTexts (extension a).toList (extension b).toList).then names
    | some 'v' =>
      (compareRuns (digitRuns 300 a.name.toList) (digitRuns 300 b.name.toList)).then names
    | _ => names
  let sorted :=
    if m.order = some 'U' then entries
    else entries.mergeSort fun a b => order a b ≠ .gt
  let sorted := if m.reverse then sorted.reverse else sorted
  if m.directoriesFirst then
    let isDir (e : Entry) : Bool := e.node.isDir || e.target.any Node.isDir
    sorted.filter isDir ++ sorted.filter (!isDir ·)
  else sorted

/-- Says entries. -/
def say (m : ListManner) (entries : List Entry) : Act Unit := do
  let texts := entries.map m.short
  match m.layout with
  | .lines => for text in texts do Act.sayLine text
  | .commas => Act.say (m.commaed texts)
  | .columns => if !texts.isEmpty then Act.say (m.columned false texts)
  | .rows => if !texts.isEmpty then Act.say (m.columned true texts)
  | .long =>
    let widest := (entries.map fun e => (toString (e.node.byteSize)).length).max?.getD 0
    for e in entries do Act.sayLine (m.long widest e)

/-- The entries of a directory that are said. -/
def inside (m : ListManner) (path : String) (entries : List (String × Node)) :
    Act (List Entry) := do
  let shown (name : String) : Bool :=
    (m.hidden || name.toList.head? ≠ some '.') &&
      !m.ignored.any fun p => Text.Pattern.isMatch p.toList name.toList
  let dots := if m.dots then [".", ".."] else []
  let own := (dots.map fun name => (name, Node.dir [])) ++
    (entries.map fun (name, node) => (Text.octets name, node)).filter fun e => shown e.1
  own.mapM fun (name, node) => do
    let below := Disk.Path.join path name
    let target ←
      match node with
      | .link _ =>
        match ← Act.look below with
        | .ok (_, node) => pure (some node)
        | .error _ => pure none
      | _ => pure none
    return { name, path := below, node := if m.follows then target.getD node else node, target }

/-- Says what is in a directory, and with `deep` also in those below it. -/
def sayDirectory (m : ListManner) : Nat → Bool → String → Node → Bool → Act Unit
  | 0, _, _, _, _ => return
  | fuel + 1, headed, path, node, first => do
    if !first then Act.say "\n"
    if headed then Act.sayLine (m.spelled path ++ ":")
    let entries := m.ordered (← m.inside path node.entries)
    if m.layout = .long || m.blocks then
      Act.sayLine ("total " ++ toString (entries.foldl (fun n e => n + blocksOf e.node) 0))
    m.say entries
    if m.deep then
      for e in entries do
        if e.node.isDir && e.name ≠ "." && e.name ≠ ".." then
          sayDirectory m fuel headed e.path e.node false

end ListManner

/-- The options of `ls`. -/
def listSwitches : List Switch :=
  [named 'a' "all", named 'A' "almost-all", named 'd' "directory", named 'F' "classify" .perhaps,
    named 'r' "reverse", named 'R' "recursive", named 'S' "size-sort", named 'Q' "quote-name",
    named 'b' "escape", named 'q' "hide-control-chars", named 'N' "literal",
    named 'I' "ignore" .something, named 'w' "width" .something, named 'h' "human-readable",
    named 'i' "inode", named 's' "size", named 'L' "dereference",
    named 'H' "dereference-command-line", named 'B' "ignore-backups", named 'n' "numeric-uid-gid",
    named 'G' "no-group", named 'T' "tabsize" .something, named 'k' "kibibytes",
    named 'Z' "context", word "file-type", word "indicator-style" .something,
    word "format" .something, word "quoting-style" .something, word "hide" .something,
    word "sort" .something, word "time" .something, word "time-style" .something,
    word "color" .perhaps, word "group-directories-first", word "full-time", word "si",
    word "author", word "block-size" .something, word "show-control-chars", word "zero",
    word "dereference-command-line-symlink-to-dir", word "hyperlink" .perhaps] ++
    letters "lmxC1pftcugoUvXD"

/-- The layout that options ask for, the last of which counts. -/
def layoutOf (a : Arguments) : Layout :=
  let fromOption : String × String → Option Layout
    | ("l", _) | ("n", _) | ("o", _) | ("g", _) | ("full-time", _) => some .long
    | ("m", _) => some .commas
    | ("x", _) => some .rows
    | ("C", _) => some .columns
    | ("1", _) => some .lines
    | ("format", value) =>
      match value with
      | "commas" => some .commas
      | "across" | "horizontal" => some .rows
      | "vertical" => some .columns
      | "long" | "verbose" => some .long
      | _ => some .lines
    | _ => none
  -- One name a line is what a long layout already is.
  a.options.foldl (fun l o =>
    match fromOption o with
    | some .lines => if l = .long && o.1 = "1" then .long else .lines
    | some own => own
    | none => l) .lines

/-- The order that options ask for. -/
def orderOf (a : Arguments) : Option Char :=
  match a.options.reverse.find? fun o => o.1 ∈ ["t", "S", "U", "v", "X", "f", "sort"] with
  | some ("t", _) => some 't'
  | some ("S", _) => some 'S'
  | some ("U", _) | some ("f", _) => some 'U'
  | some ("v", _) => some 'v'
  | some ("X", _) => some 'X'
  | some ("sort", value) =>
    match value with
    | "time" => some 't'
    | "size" => some 'S'
    | "none" => some 'U'
    | "version" => some 'v'
    | "extension" => some 'X'
    | _ => none
  | _ => none

/-- The marks that options ask for. -/
def marksOf (a : Arguments) : Option Char :=
  match a.options.reverse.find? fun o => o.1 ∈ ["F", "p", "file-type", "indicator-style"] with
  | some ("F", _) => some 'F'
  | some ("p", _) => some 'p'
  | some ("file-type", _) => some 't'
  | some (_, value) =>
    match value with
    | "slash" => some 'p'
    | "classify" => some 'F'
    | "file-type" => some 't'
    | _ => none
  | none => none

/-- How names are quoted as options ask for it. -/
def quoteOf (a : Arguments) : Option Char :=
  match a.options.reverse.find? fun o => o.1 ∈ ["Q", "b", "q", "N", "quoting-style"] with
  | some ("Q", _) => some 'Q'
  | some ("b", _) => some 'b'
  | some ("q", _) => some 'q'
  | some ("quoting-style", value) =>
    match value with
    | "c" => some 'Q'
    | "escape" => some 'b'
    | "shell" | "shell-escape" => some 's'
    | "shell-always" | "shell-escape-always" => some 'S'
    | _ => none
  | _ => none

/-- Says what is in directories. -/
def ls : Program := fun c => do
  let a ← understand c listSwitches 2
  let layout := layoutOf a
  let m : ListManner := {
    layout
    hidden := a.has "a" || a.has "A" || a.has "f"
    dots := (a.last? ["a", "A", "f"]).any (· ≠ "A")
    deep := a.has "R" && !a.has "d"
    asNames := a.has "d"
    follows := a.has "L"
    reverse := a.has "r"
    order := orderOf a
    marks := marksOf a
    quote := quoteOf a
    blocks := a.has "s"
    width := ((a.value? "w").bind natural?).getD 80
    ignored := a.values "I" ++ a.values "hide" ++ if a.has "B" then ["*~"] else []
    directoriesFirst := a.has "group-directories-first"
    owner := !a.has "g"
    group := !a.has "o" && !a.has "G"
    numericIds := a.has "n"
    now := ← now }
  let paths := if a.operands.isEmpty then ["."] else a.operands
  let stays := !m.follows && !a.has "H" && (layout = .long || m.asNames || m.marks = some 'F')
  let mut status := 0
  let mut found : List Entry := []
  for path in paths do
    let first ← Act.look path (if stays then .stay else .follow)
    let own ←
      match first with
      | .ok _ => pure first
      | .error fault => do
        let second ← if m.follows then pure first else Act.look path .stay
        pure (if fault = .notFound || fault = .tooManyLinks then second else first)
    match own with
    | .ok (_, node) =>
      let target ←
        match ← Act.look path with
        | .ok (_, node) => pure (some node)
        | .error _ => pure none
      found := found ++ [{ name := path, path, node, target }]
    | .error fault =>
      c.complain ("cannot access " ++ shellQuoted path ++ ": " ++ fault.reason)
      status := 2
  let isInside (e : Entry) : Bool := e.node.isDir && !m.asNames
  let files := m.ordered (found.filter (!isInside ·))
  let directories := m.ordered (found.filter isInside)
  m.say files
  let headed := 1 < paths.length || m.deep
  let mut first := files.isEmpty
  for e in directories do
    m.sayDirectory Disk.Path.maxBytes headed e.path e.node first
    first := false
  return status

end ContractBindings.Utility
