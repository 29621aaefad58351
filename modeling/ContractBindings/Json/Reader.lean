import ContractBindings.Json.Scan

/-!
# Reading JSON

`Json.read` reads a text that holds one value and nothing else but blanks. Arrays and objects may
be nested `depthLimit` levels deep.
-/

namespace ContractBindings.Json

/-- The greatest depth of nested arrays and objects. -/
def depthLimit : Nat := 127

mutual

/-- Reads a value, with at most `depth` levels of arrays and objects in it. The first argument
bounds the steps; more than twice the length of the text is enough. -/
def readValue : Nat → Nat → List Char → Scan Json
  | 0, _, s => stop .endInValue s 0
  | fuel + 1, depth, s =>
    match skipSpaces s with
    | [] => stop .endInValue [] 0
    | 'n' :: rest => (readLiteral ['u', 'l', 'l'] rest).map (.null, ·)
    | 't' :: rest => (readLiteral ['r', 'u', 'e'] rest).map (.bool true, ·)
    | 'f' :: rest => (readLiteral ['a', 'l', 's', 'e'] rest).map (.bool false, ·)
    | '-' :: rest => (readDigits true rest).map fun p => (.number p.1, p.2)
    | '"' :: rest => (readText rest).map fun p => (.text p.1, p.2)
    | '[' :: rest =>
      match depth with
      | 0 => stop .tooDeep ('[' :: rest) 1
      | depth + 1 =>
        match skipSpaces rest with
        | [] => stop .endInArray [] 0
        | ']' :: rest => .ok (.array [], rest)
        | s => (readElements fuel depth s).map fun p => (.array p.1, p.2)
    | '{' :: rest =>
      match depth with
      | 0 => stop .tooDeep ('{' :: rest) 1
      | depth + 1 =>
        match skipSpaces rest with
        | [] => stop .endInObject [] 0
        | '}' :: rest => .ok (.object [], rest)
        | '"' :: s => (readMembers fuel depth s).map fun p => (.object (members p.1), p.2)
        | s => stop .badKey s 1
    | c :: rest =>
      if c.isDigit then (readDigits false (c :: rest)).map fun p => (.number p.1, p.2)
      else stop .missingValue (c :: rest) 1

/-- Reads an element, the elements after it and the closing bracket. -/
def readElements : Nat → Nat → List Char → Scan (List Json)
  | 0, _, s => stop .endInValue s 0
  | fuel + 1, depth, s =>
    match readValue fuel depth s with
    | .error e => .error e
    | .ok (v, s) =>
      match skipSpaces s with
      | [] => stop .endInArray [] 0
      | ']' :: rest => .ok ([v], rest)
      | ',' :: rest =>
        match skipSpaces rest with
        | [] => stop .endInValue [] 0
        | ']' :: rest => stop .trailingComma (']' :: rest) 1
        | s => (readElements fuel depth s).map fun p => (v :: p.1, p.2)
      | s => stop .missingElementEnd s 1

/-- Reads a member after the opening quote of its key, the members after it and the closing
brace. -/
def readMembers : Nat → Nat → List Char → Scan (List (String × Json))
  | 0, _, s => stop .endInValue s 0
  | fuel + 1, depth, s =>
    match readText s with
    | .error e => .error e
    | .ok (key, s) =>
      match skipSpaces s with
      | [] => stop .endInObject [] 0
      | ':' :: s =>
        match readValue fuel depth s with
        | .error e => .error e
        | .ok (v, s) =>
          match skipSpaces s with
          | [] => stop .endInObject [] 0
          | '}' :: rest => .ok ([(key, v)], rest)
          | ',' :: rest =>
            match skipSpaces rest with
            | [] => stop .endInValue [] 0
            | '"' :: s => (readMembers fuel depth s).map fun p => ((key, v) :: p.1, p.2)
            | '}' :: rest => stop .trailingComma ('}' :: rest) 1
            | s => stop .badKey s 1
          | s => stop .missingMemberEnd s 1
      | s => stop .missingColon s 1

end

/-- Enough steps to read a text. -/
def enoughFuel (text : List Char) : Nat := 2 * text.length + 2

/-- Nothing but blanks is left. -/
def expectEnd {α : Type} : α × List Char → Except Stop α
  | (a, s) =>
    match skipSpaces s with
    | [] => .ok a
    | s => stop .trailingCharacters s 1

/-- Runs a reader on a whole text, with enough steps for it. -/
def readWhole {α : Type} (reader : Nat → List Char → Scan α) (text : String) :
    Except PlacedFault α :=
  let s := text.toList
  match reader (enoughFuel s) s with
  | .error e => .error (e.placed s)
  | .ok p =>
    match expectEnd p with
    | .error e => .error (e.placed s)
    | .ok a => .ok a

/-- Reads the value that a text holds. -/
def read (text : String) : Except PlacedFault Json :=
  readWhole (fun fuel => readValue fuel depthLimit) text

end ContractBindings.Json
