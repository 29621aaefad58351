/-!
# Scripts

The commands of a shell: simple commands with assignments and redirections, lists, pipes, groups,
branches, loops, choices and definitions. Words keep what stands for something else, and whether it
stood in quotes.
-/

namespace ContractBindings.Shell

/-- Which part of a value is cut off. -/
inductive Trim where
  | shortestStart
  | longestStart
  | shortestEnd
  | longestEnd
  deriving DecidableEq, Repr

/-- What becomes of a parameter that has no value. -/
inductive Fallback where
  /-- `${name-word}`: the word stands for it. -/
  | use
  /-- `${name=word}`: it gets the word as its value. -/
  | assign
  /-- `${name?word}`: the word is complained about. -/
  | complain
  /-- `${name+word}`: the word stands for a value that is there. -/
  | instead
  deriving DecidableEq, Repr

/-- What is made of the value of a parameter. -/
inductive Operation where
  /-- `$name` -/
  | value
  /-- `${#name}` -/
  | length
  /-- `${name-word}` and the like; with a colon, an empty value is none. -/
  | fallback (kind : Fallback) (colon : Bool)
  /-- `${name#word}` and the like. -/
  | trim (trim : Trim)
  /-- Nothing that is known. -/
  | unknown
  deriving DecidableEq, Repr

/-- What a redirection does to a stream. -/
inductive Direction where
  /-- `<` -/
  | input
  /-- `>` -/
  | output
  /-- `>|` -/
  | overwrite
  /-- `>>` -/
  | append
  /-- `<>` -/
  | both
  deriving DecidableEq, Repr

mutual

/-- A part of a word. -/
inductive Piece where
  /-- A character without quotes. -/
  | char (c : Char)
  /-- A character in quotes. -/
  | quoted (c : Char)
  /-- A quote itself, which makes a word of nothing an empty word. -/
  | mark
  /-- `$name` and `${…}` -/
  | parameter (name : String) (operation : Operation) (word : List Piece) (quoted : Bool)
  /-- `$(…)` -/
  | output (script : Script) (quoted : Bool)
  /-- `$((…))` -/
  | number (expression : List Piece) (quoted : Bool)

/-- A redirection of a numbered stream. -/
inductive Redirection where
  /-- To or from a file. -/
  | file (stream : Nat) (direction : Direction) (target : List Piece)
  /-- To where another stream leads, or nowhere. -/
  | copy (stream : Nat) (target : List Piece)
  /-- From a document that stands in the script. -/
  | document (stream : Nat) (index : Nat)

/-- A choice of a `case`: its patterns and its body. -/
inductive Choice where
  | mk (patterns : List (List Piece)) (body : Script)

/-- A script. Lines are those on which commands begin. -/
inductive Script where
  /-- Nothing. -/
  | nothing
  /-- Assignments, words and redirections. -/
  | simple (line : Nat) (assignments : List (String × List Piece)) (words : List (List Piece))
    (redirections : List Redirection)
  /-- One after the other. -/
  | sequence (first second : Script)
  /-- The second if the first succeeds. -/
  | both (first second : Script)
  /-- The second if the first fails. -/
  | either (first second : Script)
  /-- Succeeds if the body fails. -/
  | negation (body : Script)
  /-- Each reads what the one before writes. -/
  | pipe (stages : List Script) (apart : Bool)
  /-- With redirections. -/
  | redirected (line : Nat) (body : Script) (redirections : List Redirection)
  /-- In a shell of its own. -/
  | apart (line : Nat) (body : Script) (redirections : List Redirection)
  /-- In a shell of its own, for which nobody waits. -/
  | aside (line : Nat) (body : Script) (redirections : List Redirection)
  /-- One of two, by the outcome of a condition. -/
  | branch (condition consequence : Script) (alternative : Option Script)
  /-- Over and over, as long as the condition succeeds, or fails if `negated`. -/
  | loop (negated : Bool) (condition body : Script)
  /-- Once for each word. -/
  | each (line : Nat) (name : String) (items : List (List Piece)) (body : Script)
  /-- The body of the first choice that matches a word. -/
  | select (line : Nat) (subject : List Piece) (choices : List Choice)
  /-- Gives a name to a script. -/
  | definition (name : String) (body : Script)

end

instance : Inhabited Script := ⟨.nothing⟩

/-- A word before it is expanded. -/
abbrev Word := List Piece

/-- The characters of a word in which nothing stands for something else, without its quotes. -/
def plainText (w : Word) : List Char :=
  w.filterMap fun p =>
    match p with
    | .char c | .quoted c => some c
    | _ => none

/-- The text of a word that has no quotes and in which nothing stands for something else. -/
def bare? : Word → Option (List Char)
  | [] => some []
  | .char c :: rest => (bare? rest).map (c :: ·)
  | _ => none

/-- May start the name of a variable. -/
def startsName (c : Char) : Bool := c.isAlpha || c == '_'

/-- May go on in the name of a variable. -/
def continuesName (c : Char) : Bool := c.isAlphanum || c == '_'

/-- The characters are the name of a variable. -/
def isName : List Char → Bool
  | [] => false
  | c :: rest => startsName c && rest.all continuesName

/-- Splits a word that is an assignment into its name and its value. -/
def assignment? (w : Word) : Option (String × Word) :=
  let name := (w.map fun p =>
    match p with
    | .char c => c
    | _ => ' ').takeWhile (· ≠ '=')
  if isName name then
    match w.drop name.length with
    | .char '=' :: value => some (String.ofList name, value)
    | _ => none
  else none

end ContractBindings.Shell
