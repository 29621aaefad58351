import ContractBindings.Process.Program
import ContractBindings.Utility.Quoting

/-!
# Arguments of utilities

Options are a letter after one dash, several letters together, or a word after two dashes, which may
be cut short. They may stand among the other arguments, up to an argument of two dashes.
-/

namespace ContractBindings.Utility

open Process

/-- Whether an option has a value. -/
inductive Takes where
  | nothing
  | perhaps
  | something
  deriving DecidableEq

/-- An option that a utility knows. -/
structure Switch where
  letter : Option Char := none
  word : Option String := none
  takes : Takes := .nothing

/-- The name under which an option is found: its letter, or else its word. -/
def Switch.key (s : Switch) : String := s.letter.elim (s.word.getD "") String.singleton

/-- Options without values, by their letters. -/
def letters (all : String) : List Switch := all.toList.map fun c => { letter := some c }

/-- Options with values, by their letters. -/
def valued (all : String) : List Switch :=
  all.toList.map fun c => { letter := some c, takes := .something }

/-- An option with a letter and a word. -/
def named (letter : Char) (word : String) (takes : Takes := .nothing) : Switch :=
  { letter := some letter, word := some word, takes }

/-- An option with a word only. -/
def word (word : String) (takes : Takes := .nothing) : Switch := { word := some word, takes }

/-- Arguments that have been understood. -/
structure Arguments where
  /-- The options in order, with their values. -/
  options : List (String × String) := []
  operands : List String := []

namespace Arguments

/-- The option was given. -/
def has (a : Arguments) (key : String) : Bool := a.options.any (·.1 = key)

/-- The last value that was given for an option. -/
def value? (a : Arguments) (key : String) : Option String :=
  (a.options.reverse.find? (·.1 = key)).map (·.2)

/-- The values that were given for an option. -/
def values (a : Arguments) (key : String) : List String :=
  a.options.filterMap fun o => if o.1 = key then some o.2 else none

/-- The last of some options that was given. -/
def last? (a : Arguments) (keys : List String) : Option String :=
  (a.options.reverse.find? fun o => o.1 ∈ keys).map (·.1)

/-- Adds an option before others. -/
def withOption (key value : String) (a : Arguments) : Arguments :=
  { a with options := (key, value) :: a.options }

end Arguments

/-- Why arguments are not understood. -/
inductive ArgumentFault where
  | unknownLetter (letter : Char)
  | unknownWord (word : String)
  | ambiguous (word : String) (words : List String)
  | missingLetterValue (letter : Char)
  | missingWordValue (word : String)
  | needlessValue (word : String)

/-- What is said about arguments that are not understood. -/
def ArgumentFault.text : ArgumentFault → String
  | unknownLetter letter => "invalid option -- '" ++ String.singleton letter ++ "'"
  | unknownWord word => "unrecognized option '--" ++ word ++ "'"
  | ambiguous word words =>
    "option '--" ++ word ++ "' is ambiguous; possibilities:" ++
      String.join (words.map fun w => " '--" ++ w ++ "'")
  | missingLetterValue letter =>
    "option requires an argument -- '" ++ String.singleton letter ++ "'"
  | missingWordValue word => "option '--" ++ word ++ "' requires an argument"
  | needlessValue word => "option '--" ++ word ++ "' doesn't allow an argument"

/-- The option that a word names, which may be cut short. -/
def findWord (known : List Switch) (text : String) : Except ArgumentFault Switch :=
  match known.find? (·.word = some text) with
  | some s => .ok s
  | none =>
    match known.filter fun s => s.word.any (·.startsWith text) with
    | [] => .error (.unknownWord text)
    | s :: rest =>
      if rest.all fun r => r.key = s.key && r.takes = s.takes then .ok s
      else .error (.ambiguous text ((s :: rest).filterMap (·.word)))

/-- Reads letters after a dash: the options, and whether the last one still lacks its value. -/
def readLetters (known : List Switch) :
    List Char → Except ArgumentFault (List (String × String) × Option Switch)
  | [] => .ok ([], none)
  | c :: rest =>
    match known.find? (·.letter = some c) with
    | none => .error (.unknownLetter c)
    | some s =>
      match s.takes, rest with
      | .nothing, rest => (readLetters known rest).map fun (o, m) => ((s.key, "") :: o, m)
      | .something, [] => .ok ([], some s)
      | _, rest => .ok ([(s.key, String.ofList rest)], none)

/-- Reads arguments. If they are not `mixed`, no option comes after another argument. -/
def readArguments (known : List Switch) (mixed : Bool) :
    List String → Except ArgumentFault Arguments
  | [] => .ok {}
  | arg :: rest =>
    let own := arg.toList
    match own with
    | ['-', '-'] => .ok { operands := rest }
    | '-' :: '-' :: cs =>
      let name := String.ofList (cs.takeWhile (· ≠ '='))
      let given := (cs.drop name.length).head?.isSome
      let value := String.ofList (cs.drop (name.length + 1))
      match findWord known name with
      | .error fault => .error fault
      | .ok s =>
        let full := s.word.getD name
        match s.takes, given, rest with
        | .nothing, true, _ => .error (.needlessValue full)
        | .something, false, [] => .error (.missingWordValue full)
        | .something, false, v :: rest =>
          (readArguments known mixed rest).map (·.withOption s.key v)
        | _, _, rest => (readArguments known mixed rest).map (·.withOption s.key value)
    | '-' :: c :: cs =>
      match readLetters known (c :: cs), rest with
      | .error fault, _ => .error fault
      | .ok (found, none), rest =>
        (readArguments known mixed rest).map fun a => { a with options := found ++ a.options }
      | .ok (_, some s), [] => .error (.missingLetterValue (s.letter.getD '?'))
      | .ok (found, some s), v :: rest =>
        (readArguments known mixed rest).map fun a =>
          { a with options := found ++ (s.key, v) :: a.options }
    | _ =>
      if mixed then
        (readArguments known mixed rest).map fun a => { a with operands := arg :: a.operands }
      else .ok { operands := arg :: rest }

/-- The options that most utilities know. -/
def usualSwitches : List Switch := [word "help", word "version"]

/-- Understands the arguments of a call, or ends it with a complaint. -/
def understand (c : Call) (known : List Switch) (status : Nat := 1) (mixed : Bool := true) :
    Act Arguments := do
  match readArguments (known ++ usualSwitches) mixed c.args with
  | .error fault => c.misuse status fault.text
  | .ok a =>
    if a.has "help" || a.has "version" then throw 0
    return a

/-- Complains that an operand is missing. -/
def missingOperand {α : Type} (c : Call) : Act α := c.misuse 1 "missing operand"

/-- Complains about an operand too much. -/
def extraOperand {α : Type} (c : Call) (operand : String) : Act α :=
  c.misuse 1 ("extra operand " ++ textQuoted operand)

/-- Does something for each of several operands; the status is that of the worst one. -/
def forEach {α : Type} (act : α → Act Nat) : List α → Act Nat
  | [] => return 0
  | x :: rest => do
    let status ← act x
    return max status (← forEach act rest)

/-- A number without a sign. -/
def natural? (text : String) : Option Nat :=
  if !text.isEmpty && text.toList.all Char.isDigit then text.toNat? else none

end ContractBindings.Utility
