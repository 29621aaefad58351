import ContractBindings.Shell.Script

/-!
# Sources of scripts

A script is read character by character, and is read no further than to the end of the command that
is carried out next. The text of an alias is read before what follows the name that it stands for.
What a reader must remember between two tokens is kept here.
-/

namespace ContractBindings.Shell

/-- A token. -/
inductive Token where
  | endOfScript
  | newline
  | semicolon
  | ampersand
  | both
  | either
  | pipe
  | opening
  | closing
  | choiceEnd
  | word
  | redirection
  | keyword (text : String)
  deriving DecidableEq, Repr

/-- What a complaint calls a token. -/
def Token.name : Token → String
  | .endOfScript => "end of file"
  | .newline => "newline"
  | .semicolon => "\";\""
  | .ampersand => "\"&\""
  | .both => "\"&&\""
  | .either => "\"||\""
  | .pipe => "\"|\""
  | .opening => "\"(\""
  | .closing => "\")\""
  | .choiceEnd => "\";;\""
  | .word => "word"
  | .redirection => "redirection"
  | .keyword text => "\"" ++ text ++ "\""

/-- The words that have a meaning of their own where a command begins. -/
def keywords : List String :=
  ["!", "case", "do", "done", "elif", "else", "esac", "fi", "for", "if", "in", "then", "until",
    "while", "\x7b", "\x7d"]

/-- A list of commands ends before the token. -/
def Token.endsList : Token → Bool
  | .endOfScript | .closing | .choiceEnd => true
  | .keyword text =>
    text ∈ ["do", "done", "elif", "else", "esac", "fi", "then", "\x7d"]
  | _ => false

/-- Why a text is no script, and the line on which this shows. -/
structure SyntaxFault where
  line : Nat
  message : String
  deriving DecidableEq, Repr

/-- A redirection of which the target has not been read yet. -/
inductive Pending where
  | file (stream : Nat) (direction : Direction)
  | copy (stream : Nat)
  /-- With tabs at the start of lines that do not count, if `trimmed`. -/
  | document (stream : Nat) (trimmed : Bool)

/-- A document that stands after the line on which it is asked for. -/
structure Awaited where
  index : Nat
  /-- The line that ends it. -/
  last : List Char
  trimmed : Bool
  /-- Nothing in it stands for something else. -/
  literal : Bool

/-- What is looked for where the next token begins. -/
structure Checks where
  /-- Line ends are skipped. -/
  newlines : Bool := false
  keywords : Bool := false
  aliases : Bool := false
  /-- The next word ends a document. -/
  documentEnd : Bool := false

/-- Both. -/
def Checks.or (a b : Checks) : Checks where
  newlines := a.newlines || b.newlines
  keywords := a.keywords || b.keywords
  aliases := a.aliases || b.aliases
  documentEnd := a.documentEnd || b.documentEnd

/-- The state of reading. -/
structure Source where
  /-- What is left of the script. -/
  chars : List Char
  /-- What is left of the texts of aliases, the innermost first; each with its name, and whether a
  blank ends it. -/
  aliasTexts : List (String × Bool × List Char) := []
  line : Nat := 1
  aliases : List (String × String) := []
  /-- The documents that have been read, by index. -/
  documents : Array Word := #[]
  awaited : List Awaited := []
  checks : Checks := {}
  token : Token := .newline
  /-- The token is read again. -/
  again : Bool := false
  word : Word := []
  /-- Something in the word is quoted. -/
  quoted : Bool := false
  pending : Pending := .copy 0

/-- Reading. -/
abbrev Reader := StateT Source (Except SyntaxFault)

namespace Reader

/-- Stops with a fault on the current line. -/
def stop {α : Type} (message : String) : Reader α := do
  throw ⟨(← get).line, message⟩

/-- Stops at a token that should not stand where it does. -/
def unexpected {α : Type} (expected : Option Token) : Reader α := do
  let name := (← get).token.name
  match expected with
  | none => stop (name ++ " unexpected")
  | some other => stop (name ++ " unexpected (expecting " ++ other.name ++ ")")

/-- Leaves aliases whose text has been read. -/
def leaveAliases (checks : Checks) :
    List (String × Bool × List Char) → Checks × List (String × Bool × List Char)
  | (_, blank, []) :: rest => leaveAliases { checks with aliases := checks.aliases || blank } rest
  | texts => (checks, texts)

/-- The next character as it stands. -/
def char? : Reader (Option Char) := do
  let s ← get
  let (checks, texts) := leaveAliases s.checks s.aliasTexts
  match texts with
  | (name, blank, c :: cs) :: rest =>
    set { s with checks, aliasTexts := (name, blank, cs) :: rest }
    return some c
  | _ =>
    match s.chars with
    | c :: cs =>
      set { s with checks, aliasTexts := [], chars := cs }
      return some c
    | [] =>
      set { s with checks, aliasTexts := [] }
      return none

/-- Puts a character back. -/
def putBack (c : Option Char) : Reader Unit :=
  modify fun s =>
    match c, s.aliasTexts with
    | none, _ => s
    | some c, (name, blank, cs) :: rest => { s with aliasTexts := (name, blank, c :: cs) :: rest }
    | some c, [] => { s with chars := c :: s.chars }

/-- Counts a line. -/
def countLine : Reader Unit := modify fun s => { s with line := s.line + 1 }

/-- Drops line ends after a backslash; the number is that of the lines. -/
def dropJoints : List Char → Nat × List Char
  | '\\' :: '\n' :: rest =>
    let (n, rest) := dropJoints rest
    (n + 1, rest)
  | cs => (0, cs)

/-- The next character; a line end after a backslash does not count. -/
def joined? : Reader (Option Char) := do
  let s ← get
  let (checks, texts) := leaveAliases s.checks s.aliasTexts
  match texts with
  | (name, blank, cs) :: rest =>
    let (n, cs) := dropJoints cs
    set { s with checks, aliasTexts := (name, blank, cs) :: rest, line := s.line + n }
  | [] =>
    let (n, cs) := dropJoints s.chars
    set { s with checks, aliasTexts := [], chars := cs, line := s.line + n }
  char?

/-- The next character stays where it is, unless it is the given one. -/
def takeIf (c : Char) : Reader Bool := do
  let d ← joined?
  if d = some c then return true
  putBack d
  return false

/-- Skips a comment. -/
def skipComment : Reader Unit :=
  modify fun s =>
    match s.aliasTexts with
    | (name, blank, cs) :: rest =>
      { s with aliasTexts := (name, blank, cs.dropWhile (· ≠ '\n')) :: rest }
    | [] => { s with chars := s.chars.dropWhile (· ≠ '\n') }

/-- Sees whether the next line ends a document, and takes it if so. Tabs before it go in any case
from a trimmed document. -/
def documentEnds (last : List Char) (trimmed : Bool) : Reader Bool := do
  let s ← get
  let cs := if trimmed then s.chars.dropWhile (· = '\t') else s.chars
  let line := cs.takeWhile (· ≠ '\n')
  if line = last && s.aliasTexts.isEmpty then
    match cs.drop line.length with
    | _ :: rest => set { s with chars := rest, line := s.line + 1 }
    | [] => set { s with chars := [] }
    return true
  else
    set { s with chars := cs }
    return false

end Reader

end ContractBindings.Shell
