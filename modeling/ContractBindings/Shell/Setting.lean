import ContractBindings.Shell.Expansion
import ContractBindings.Text.Format

/-!
# Settings

The commands that change what a shell knows: variables and their properties, arguments, options and
aliases, and those that read values for variables.
-/

namespace ContractBindings.Shell

open Process

/-- A command that a shell carries out itself. It gives back its status. -/
abbrev Builtin := List String → Sh Nat

namespace Sh

/-! ## Arguments -/

/-- Takes options off arguments. Those allowed are letters, with a colon after those that have a
value. -/
def optionsFrom (allowed : List Char) : Nat → List Char → List String →
    Sh (List (Char × String) × List String)
  | 0, _, args => return ([], args)
  | fuel + 1, letters, args => do
    match letters, args with
    | [], arg :: rest =>
      match arg.toList with
      | ['-', '-'] => return ([], rest)
      | '-' :: c :: cs => optionsFrom allowed fuel (c :: cs) rest
      | _ => return ([], args)
    | [], [] => return ([], [])
    | c :: cs, args =>
      match allowed.dropWhile (· ≠ c), c with
      | [], _ | _, ':' => fault ("Illegal option -" ++ String.singleton c)
      | _ :: ':' :: _, _ =>
        match cs, args with
        | [], [] => fault ("No arg for -" ++ String.singleton c ++ " option")
        | [], arg :: rest =>
          let (found, rest) ← optionsFrom allowed fuel [] rest
          return ((c, arg) :: found, rest)
        | cs, args =>
          let (found, rest) ← optionsFrom allowed fuel [] args
          return ((c, String.ofList cs) :: found, rest)
      | _, _ =>
        let (found, rest) ← optionsFrom allowed fuel cs args
        return ((c, "") :: found, rest)

/-- Takes options off arguments. -/
def takeOptions (allowed : String) (args : List String) :
    Sh (List (Char × String) × List String) :=
  let size := args.foldl (fun n a => n + a.length + 1) 0
  optionsFrom allowed.toList (size + 1) [] args

/-- A number that counts something. -/
def count (text : String) : Sh Nat := do
  let n ← integer false text
  if n < 0 || 2147483647 < n then fault ("Illegal number: " ++ text)
  return n.toInt.toNat

/-! ## Variables -/

/-- Splits a text at its first sign of equality. -/
def splitAssignment (text : String) : String × Option String :=
  let name := text.toList.takeWhile (· ≠ '=')
  match text.toList.drop name.length with
  | _ :: value => (String.ofList name, some (String.ofList value))
  | [] => (text, none)

/-- Says the variables of some kind, in order. -/
def listVariables (command : String) (kind : Variable → Bool) : Sh Unit := do
  let found := (← get).parameters.filter fun v => kind v.2
  for (name, v) in found.mergeSort fun a b => decide (a.1 ++ "=" ≤ b.1 ++ "=") do
    let start := if command.isEmpty then "" else command ++ " "
    say (start ++ name ++ v.value.elim "" (fun value => "=" ++ quoted value) ++ "\n")

/-- Gives variables a property, and perhaps values. -/
def mark (command : String) : Builtin := fun args => do
  let exported := command = "export"
  let (options, names) ← takeOptions "p" args
  if names.isEmpty || !options.isEmpty then
    listVariables command fun v => if exported then v.exported else v.fixed
  else
    for text in names do
      let (name, value) := splitAssignment text
      match value, (← get).parameters.lookup name with
      | none, some v =>
        let v := if exported then { v with exported := true } else { v with fixed := true }
        restore name (some v)
      | value, _ => assignNamed name value exported (!exported)
  return 0

/-- Makes variables those of a function. -/
def makeLocal : Builtin := fun args => do
  if (← get).formers.isEmpty then fault "not in a function"
  for text in args do
    if text = "-" then remember (.options (← get).options)
    else
      let (name, value) := splitAssignment text
      localize name value false
  return 0

/-- Takes variables or functions away. -/
def unset : Builtin := fun args => do
  let (options, names) ← takeOptions "vf" args
  let kind := options.getLast?.elim 'v' (·.1)
  for name in names do
    if kind = 'f' then
      modify fun s => { s with functions := s.functions.filter (·.1 != name) }
    else assignNamed name none
  return 0

/-! ## Options and arguments -/

/-- The names of the options, with their letters. -/
def optionNames : List (String × Char) :=
  [("errexit", 'e'), ("noglob", 'f'), ("ignoreeof", 'I'), ("interactive", 'i'), ("monitor", 'm'),
    ("noexec", 'n'), ("stdin", 's'), ("xtrace", 'x'), ("verbose", 'v'), ("vi", 'V'), ("emacs", 'E'),
    ("noclobber", 'C'), ("allexport", 'a'), ("notify", 'b'), ("nounset", 'u'),
    ("privileged", 'p'), ("nolog", '0'), ("debug", '1')]

/-- Turns an option on or off. The letters of those that are on stay in order. -/
def turn (letter : Char) (on : Bool) : Sh Unit :=
  modify fun s =>
    let options := optionNames.map (·.2) |>.filter fun c =>
      if c = letter then on else s.options.contains c
    { s with options }

/-- Says which options are on. -/
def listOptions (inWords : Bool) : Sh Unit := do
  let options := (← get).options
  if inWords then say "Current option settings\n"
  for (name, letter) in optionNames do
    let on := options.contains letter
    if inWords then
      let column := Text.Format.text { left := true, width := 16 } name
      say (column ++ (if on then "on" else "off") ++ "\n")
    else say ("set " ++ (if on then "-o " else "+o ") ++ name ++ "\n")

/-- Turns options on and off by letters; a name may follow. -/
def turnLetters (on : Bool) : List Char → List String → Sh (List String)
  | [], rest => return rest
  | 'o' :: letters, rest => do
    match rest with
    | [] => listOptions on
    | name :: _ =>
      match optionNames.lookup name with
      | some letter => turn letter on
      | none => fault ("Illegal option -o " ++ name)
    turnLetters on letters rest.tail
  | letter :: letters, rest => do
    if optionNames.all fun o => o.2 ≠ letter || o.2.isDigit then
      fault ("Illegal option -" ++ String.singleton letter)
    turn letter on
    turnLetters on letters rest

/-- Takes options off the arguments of `set`; what is left becomes the arguments of the shell. -/
def setFrom : Nat → List String → Sh Unit
  | 0, _ => return
  | fuel + 1, args => do
    let become (args : List String) : Sh Unit :=
      modify fun s => { s with args, optionSpot := (1, none) }
    match args with
    | [] => return
    | arg :: rest =>
      match arg.toList with
      | ['-'] =>
        turn 'x' false
        turn 'v' false
        if !rest.isEmpty then become rest
      | ['-', '-'] => become rest
      | '-' :: letters => setFrom fuel (← turnLetters true letters rest)
      | '+' :: letters => setFrom fuel (← turnLetters false letters rest)
      | _ => become args

/-- Sets options and arguments, or says all variables. -/
def set : Builtin := fun args => do
  if args.isEmpty then listVariables "" (·.value.isSome)
  else setFrom (args.length + 1) args
  return 0

/-- Drops arguments. -/
def shift : Builtin := fun args => do
  let n ← args.head?.elim (pure 1) count
  if (← get).args.length < n then fault "can't shift that many"
  modify fun s => { s with args := s.args.drop n, optionSpot := (1, none) }
  return 0

/-- Reads the next option of arguments. -/
def getopts : Builtin := fun args => do
  let (_, args) ← takeOptions "" args
  match args with
  | options :: name :: given =>
    let s ← get
    let words := if given.isEmpty then s.args else given
    let (index, spot) := if words.length + 1 < s.optionSpot.1 then (1, none) else s.optionSpot
    let word (i : Nat) : Option (List Char) := (words[i - 1]?).map String.toList
    -- What is left of the word that is being read.
    let left := (spot.bind fun n => (word (index - 1)).map (·.drop n)).getD []
    let (index, left, isOver) : Nat × List Char × Bool :=
      match left with
      | c :: cs => (index, c :: cs, false)
      | [] =>
        match word index with
        | some ['-', '-'] => (index + 1, [], true)
        | some ('-' :: c :: cs) => (index + 1, c :: cs, false)
        | _ => (index, [], true)
    let silent := options.toList.head? = some ':'
    let finish (c : Char) (index : Nat) (left : List Char) : Sh Unit := do
      assign "OPTIND" (some (toString index))
      assignNamed name (some (String.singleton c))
      let whole := (word (index - 1)).getD []
      let spot := if left.isEmpty then none else some (whole.length - left.length)
      modify fun s => { s with optionSpot := (index, spot) }
    match isOver, left with
    | false, c :: cs =>
      let argument (value : Option String) : Sh Unit := assign "OPTARG" value
      match options.toList.dropWhile (· ≠ c) with
      | [] =>
        if silent then argument (some (String.singleton c))
        else
          carry (Act.complain ("Illegal option -" ++ String.singleton c))
          argument none
        finish '?' index cs
      | _ :: ':' :: _ =>
        match cs, word index with
        | [], none =>
          if silent then argument (some (String.singleton c))
          else
            carry (Act.complain ("No arg for -" ++ String.singleton c ++ " option"))
            argument none
          finish (if silent then ':' else '?') index []
        | [], some value =>
          argument (some (String.ofList value))
          finish c (index + 1) []
        | cs, _ =>
          argument (some (String.ofList cs))
          finish c index []
      | _ =>
        argument (some "")
        finish c index cs
      return 0
    | _, _ =>
      finish '?' index []
      return 1
  | _ => fault "Usage: getopts optstring var [arg...]"

/-! ## Aliases -/

/-- Gives names to texts, or says what names stand for. -/
def nameTexts : Builtin := fun args => do
  let tell (name value : String) : Sh Unit := say (name ++ "=" ++ quoted value ++ "\n")
  if args.isEmpty then
    for (name, value) in (← get).aliases do tell name value
    return 0
  let mut status := 0
  for text in args do
    match splitAssignment text with
    | (name, some value) =>
      if name.isEmpty then
        carry (Act.complain ("alias: " ++ text ++ " not found"))
        status := 1
      else
        modify fun s =>
          { s with aliases := s.aliases.filter (·.1 != name) ++ [(name, value)] }
    | (name, none) =>
      match (← get).aliases.lookup name with
      | some value => tell name value
      | none =>
        carry (Act.complain ("alias: " ++ name ++ " not found"))
        status := 1
  return status

/-- Takes names away from texts. -/
def unalias : Builtin := fun args => do
  let (options, names) ← takeOptions "a" args
  if !options.isEmpty then
    modify fun s => { s with aliases := [] }
    return 0
  let mut status := 0
  for name in names do
    if ((← get).aliases.lookup name).isSome then
      modify fun s => { s with aliases := s.aliases.filter (·.1 != name) }
    else
      carry (Act.complain ("unalias: " ++ name ++ " not found"))
      status := 1
  return status

/-! ## Reading -/

/-- Splits a line into parts: a character after a backslash is no separator. The second result
counts the characters that were read, and the third tells whether the line was complete. -/
def lineParts (raw : Bool) : Nat → List Part → Nat → List Char → List Part × Nat × Bool
  | 0, parts, n, _ => (parts, n, false)
  | fuel + 1, parts, n, cs =>
    match cs with
    | [] => (parts, n, false)
    | '\n' :: _ => (parts, n + 1, true)
    | '\x00' :: rest => lineParts raw fuel parts (n + 1) rest
    | '\\' :: rest =>
      if raw then lineParts raw fuel (add '\\' .separators parts) (n + 1) rest
      else
        match rest with
        | [] => (parts, n + 1, false)
        | '\n' :: rest => lineParts raw fuel (⟨[], .separators⟩ :: parts) (n + 2) rest
        | c :: rest => lineParts raw fuel (add c .never parts) (n + 2) rest
    | c :: rest => lineParts raw fuel (add c .separators parts) (n + 1) rest
where
  /-- Adds a character after parts, the last of which comes first. -/
  add (c : Char) (splitting : Splitting) : List Part → List Part
    | [] => [⟨[.char c false], splitting⟩]
    | part :: rest =>
      if part.splitting = splitting then ⟨part.cells ++ [.char c false], splitting⟩ :: rest
      else ⟨[.char c false], splitting⟩ :: part :: rest

/-- Gives variables the fields of a line; those for which there is none become empty. -/
def assignFields : List String → List String → Sh Unit
  | [], _ => return
  | name :: names, fields => do
    assignNamed name (some (fields.head?.getD ""))
    assignFields names fields.tail

/-- Reads a line into variables. -/
def read : Builtin := fun args => do
  let (options, names) ← takeOptions "p:r" args
  if names.isEmpty then fault "arg count"
  match ← carry (Act.unread 0) with
  | .error _ =>
    assignFields names []
    return 1
  | .ok bytes =>
    let raw := options.any (·.1 = 'r')
    let cs := (Text.octetsOf bytes).toList
    let (parts, n, complete) := lineParts raw (cs.length + 1) [] 0 cs
    carry (Act.skip 0 n)
    let fields := Field.split (← separators) (some names.length) parts.reverse
    assignFields names (fields.map textOf)
    return if complete then 0 else 1

end Sh

end ContractBindings.Shell
