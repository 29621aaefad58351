import ContractBindings.Shell.Source

/-!
# Reading scripts

Words are read with what is nested in them: quotes, parameters, arithmetic and scripts, each to any
depth. `Level` is what a reader knows of the innermost thing it is in. Commands are read by
recursive descent, one complete command at a time (`readCommand`), so that what stands after it is
not looked at before it has been carried out.

Every function takes a bound on the depth of calls, which the length of the script provides.
-/

namespace ContractBindings.Shell

open Reader

/-! ## Words -/

/-- What characters mean. -/
inductive Mode where
  | bare
  | doubled
  | single
  | arithmetic
  deriving DecidableEq

/-- What a reader of a word is in. -/
structure Level where
  mode : Mode := .bare
  /-- Characters stand in double quotes, or as if in them. -/
  doubled : Bool := false
  /-- How many parameters in brackets are open. -/
  depth : Nat := 0
  /-- How many of them were opened in double quotes. -/
  doubledDepth : Nat := 0
  /-- Between double quotes in a parameter. -/
  inner : Bool := false
  /-- How many brackets are open in an expression. -/
  brackets : Nat := 0
  /-- Opened for a parameter with other rules than around it. -/
  apart : Bool := false

/-- A word as it is read, from left to right, with its nested parts between marks. -/
inductive Mark where
  | piece (piece : Piece)
  | parameter (name : String) (operation : Operation) (quoted : Bool)
  | parameterEnd
  | number (quoted : Bool)
  | numberEnd

/-- Builds pieces from marks up to the end of a nested part. -/
def piecesFrom : Nat → List Mark → List Piece × List Mark
  | 0, rest => ([], rest)
  | _ + 1, [] => ([], [])
  | _ + 1, .parameterEnd :: rest => ([], rest)
  | _ + 1, .numberEnd :: rest => ([], rest)
  | fuel + 1, .piece p :: rest =>
    let (ps, rest) := piecesFrom fuel rest
    (p :: ps, rest)
  | fuel + 1, .parameter name .value quoted :: rest =>
    let (ps, rest) := piecesFrom fuel rest
    (.parameter name .value [] quoted :: ps, rest)
  | fuel + 1, .parameter name operation quoted :: rest =>
    let (word, rest) := piecesFrom fuel rest
    let (ps, rest) := piecesFrom fuel rest
    (.parameter name operation word quoted :: ps, rest)
  | fuel + 1, .number quoted :: rest =>
    let (expression, rest) := piecesFrom fuel rest
    let (ps, rest) := piecesFrom fuel rest
    (.number expression quoted :: ps, rest)

/-- Builds a word. -/
def wordOf (marks : List Mark) : Word := (piecesFrom (marks.length + 1) marks).1

/-- A word that has been read: its marks, the last first, and how the reading ended. -/
structure Lexed where
  marks : List Mark
  quoted : Bool
  /-- The character after it. -/
  next : Option Char
  level : Level

/-- The word that stands in a document, of which all brackets must be closed. -/
def documentOf (read : Lexed) : Reader Word := do
  if read.level.mode = .arithmetic then stop "Missing '))'"
  if read.level.depth > 0 then stop "Missing '\x7d'"
  return wordOf read.marks.reverse

/-- Ends a word outside quotes. -/
def endsWord (c : Char) : Bool :=
  c ∈ ['<', '>', ';', '&', '|', '(', ')', ' ', '\t']

/-- A parameter of one character. -/
def isSpecial (c : Char) : Bool := c ∈ ['!', '$', '*', '@', '#', '?', '-'] || c.isDigit

/-- Reads characters as long as they are of a kind: those, and the one after them. -/
def takeWhile (kind : Char → Bool) : Nat → Option Char → Reader (List Char × Option Char)
  | 0, c => return ([], c)
  | fuel + 1, c => do
    match c with
    | none => return ([], none)
    | some c =>
      if kind c then
        let (cs, after) ← takeWhile kind fuel (← joined?)
        return (c :: cs, after)
      else return ([], some c)

/-- Reads the text between back quotes, without the backslashes that protect it. -/
def takeBackQuoted (doubled : Bool) : Nat → Reader (List Char)
  | 0 => return []
  | fuel + 1 => do
    match ← joined? with
    | some '\x60' => return []
    | some '\\' =>
      match ← char? with
      | some d =>
        let rest ← takeBackQuoted doubled fuel
        if d = '\\' || d = '\x60' || d = '$' || (doubled && d = '"') then return d :: rest
        else return '\\' :: d :: rest
      | none => stop "EOF in backquote substitution"
    | some c =>
      if c = '\n' then countLine
      return c :: (← takeBackQuoted doubled fuel)
    | none => stop "EOF in backquote substitution"

/-- The operation that begins with a character, and whether the character belongs to it. The
operation may have a colon before it. -/
def operationOf (colon : Bool) : Option Char → Option Operation
  | some '\x7d' => some .value
  | some '-' => some (.fallback .use colon)
  | some '=' => some (.fallback .assign colon)
  | some '?' => some (.fallback .complain colon)
  | some '+' => some (.fallback .instead colon)
  | _ => none

/-- Reads the operation after the name of a parameter in brackets, of which the first character has
been read. -/
def readOperation (c : Option Char) : Reader Operation := do
  match c with
  | some ':' => return (operationOf true (← joined?)).getD .unknown
  | some '%' =>
    if ← takeIf '%' then return .trim .longestEnd else return .trim .shortestEnd
  | some '#' =>
    if ← takeIf '#' then return .trim .longestStart else return .trim .shortestStart
  | c => return (operationOf false c).getD .unknown

/-- Reads a parameter in brackets up to its operation: its name and the operation. -/
def readBracketed (fuel : Nat) : Reader (String × Operation) := do
  let c ← joined?
  let named (c : Char) (length : Bool) : Reader (String × Operation) := do
    let (name, after) ←
      takeWhile (if startsName c then continuesName else Char.isDigit) fuel (some c)
    let text := String.ofList name
    if length then
      if after = some '\x7d' then
        putBack after
        return (text, .length)
      else
        putBack after
        return (text, .unknown)
    else return (text, ← readOperation after)
  match c with
  | none => return ("", .unknown)
  | some c =>
    if startsName c || c.isDigit then named c false
    else if c = '\x7d' then
      putBack (some c)
      return ("", .unknown)
    else
      let d ← joined?
      if c = '#' then
        match d with
        | some d' =>
          if d' = '_' || d'.isAlphanum then named d' true
          else
            let e ← joined?
            if d' = '\x7d' || e ≠ some '\x7d' then
              putBack e
              return ("#", ← readOperation (some d'))
            else if isSpecial d' then
              putBack e
              return (String.singleton d', .length)
            else
              putBack e
              return ("", .unknown)
        | none => return ("#", .unknown)
      else if isSpecial c then return (String.singleton c, ← readOperation d)
      else
        putBack d
        return ("", .unknown)

/-- A quote stands in the word itself, unless it stands in a document. -/
def quoteMark (document : Bool) (marks : List Mark) : List Mark :=
  if document then marks else .piece .mark :: marks

/-- A character as it stands at a level. -/
def markOf (level : Level) (c : Char) : Mark :=
  .piece (if level.doubled || level.mode = .single then .quoted c else .char c)

mutual

/-- Reads the rest of a word, or of a document that ends with a line (`last`, and whether tabs go
before it), from a character that has been read. `outer` are the levels around. -/
def lex : Nat → Option (List Char × Bool) → Level → List Level → List Mark → Bool → Option Char →
    Reader Lexed
  | 0, _, level, _, marks, quoted, c => return ⟨marks, quoted, c, level⟩
  | fuel + 1, last, level, outer, marks, quoted, c => do
    let next (level : Level) : Reader (Option Char) :=
      if level.mode = .single then char? else joined?
    let put (level : Level) (outer : List Level) (marks : List Mark) (quoted : Bool) :
        Reader Lexed := do
      lex fuel last level outer marks quoted (← next level)
    let plain (c : Char) : Reader Lexed := put level outer (markOf level c :: marks) quoted
    match c with
    | none => return ⟨marks, quoted, none, level⟩
    | some '\n' =>
      if level.mode = .bare && level.depth = 0 then return ⟨marks, quoted, c, level⟩
      else
        countLine
        let marks := markOf level '\n' :: marks
        match last with
        | some (line, trimmed) =>
          if ← documentEnds line trimmed then return ⟨marks, quoted, none, level⟩
          else lex fuel last level outer marks quoted (← char?)
        | none => lex fuel last level outer marks quoted (← char?)
    | some c =>
      if level.mode = .single then
        if c = '\'' then
          if last.isSome && level.depth = 0 then plain c
          else
            let level :=
              if level.doubledDepth = 0 then { level with mode := .bare, doubled := false }
              else level
            put level outer (quoteMark last.isSome marks) true
        else plain c
      else
        match c with
        | '\\' =>
          match ← char? with
          | none => put level outer (.piece (.quoted '\\') :: marks) quoted
          | some '\n' =>
            countLine
            put level outer marks quoted
          | some d =>
            let kept := level.doubled && d ≠ '\\' && d ≠ '\x60' && d ≠ '$' &&
              (d ≠ '"' || (last.isSome && level.depth = 0)) && (d ≠ '\x7d' || level.depth = 0)
            let marks := if kept then .piece (.quoted '\\') :: marks else marks
            put level outer (.piece (.quoted d) :: marks) true
        | '$' => readDollar fuel last level outer marks quoted
        | '\x60' =>
          if (← get).checks.documentEnd then plain c
          else
            let script ← readBackQuoted fuel level.doubled
            put level outer (.piece (.output script level.doubled) :: marks) quoted
        | '\x7d' =>
          if !level.inner && level.depth > 0 then
            let marks := Mark.parameterEnd :: marks
            if level.depth = 1 && level.apart then
              match outer with
              | around :: outer => put around outer marks quoted
              | [] => put { level with depth := 0 } [] marks quoted
            else
              put { level with depth := level.depth - 1, doubledDepth := level.doubledDepth - 1 }
                outer marks quoted
          else plain c
        | _ =>
          match level.mode with
          | .bare =>
            if c = '\'' then
              put { level with mode := .single } outer (quoteMark last.isSome marks) quoted
            else if c = '"' then
              let inner := if level.depth > 0 then !level.inner else level.inner
              put { level with mode := .doubled, doubled := true, inner } outer
                (quoteMark last.isSome marks) quoted
            else if endsWord c && level.depth = 0 then return ⟨marks, quoted, some c, level⟩
            else plain c
          | .doubled =>
            if c = '"' then
              if last.isSome && level.depth = 0 then plain c
              else
                let level :=
                  if level.doubledDepth = 0 then { level with mode := .bare, doubled := false }
                  else level
                let level := if level.depth > 0 then { level with inner := !level.inner } else level
                put level outer (quoteMark last.isSome marks) true
            else plain c
          | .arithmetic =>
            if c = '(' then
              put { level with brackets := level.brackets + 1 } outer (markOf level c :: marks)
                quoted
            else if c = ')' then
              if level.brackets > 0 then
                put { level with brackets := level.brackets - 1 } outer (markOf level c :: marks)
                  quoted
              else if ← takeIf ')' then
                match outer with
                | around :: outer => put around outer (.numberEnd :: marks) quoted
                | [] => put {} [] (.numberEnd :: marks) quoted
              else plain c
            else plain c
          | .single => plain c

/-- Reads what a dollar sign begins. -/
def readDollar : Nat → Option (List Char × Bool) → Level → List Level → List Mark → Bool →
    Reader Lexed
  | 0, _, level, _, marks, quoted => return ⟨marks, quoted, none, level⟩
  | fuel + 1, last, level, outer, marks, quoted => do
    let put (level : Level) (outer : List Level) (marks : List Mark) : Reader Lexed := do
      lex fuel last level outer marks quoted (← joined?)
    let c ← joined?
    let begins : Bool :=
      match c with
      | some c => c = '(' || c = '\x7b' || startsName c || isSpecial c
      | none => false
    if (← get).checks.documentEnd || !begins then
      lex fuel last level outer (markOf level '$' :: marks) quoted c
    else
      match c with
      | some '(' =>
        if ← takeIf '(' then
          put { mode := .arithmetic, doubled := true } (level :: outer)
            (.number level.doubled :: marks)
        else
          let script ← readSubstitution fuel
          put level outer (.piece (.output script level.doubled) :: marks)
      | some '\x7b' =>
        let (name, operation) ← readBracketed fuel
        let mode :=
          match operation with
          | .trim _ => .bare
          | _ => if level.mode = .arithmetic then .doubled else level.mode
        let marks := Mark.parameter name operation level.doubled :: marks
        if operation = .value then put level outer marks
        else if mode ≠ level.mode || level.inner then
          let doubledDepth := if mode ≠ .bare then 1 else 0
          put { mode, doubled := mode ≠ .bare, depth := 1, doubledDepth, apart := true }
            (level :: outer) marks
        else
          let doubledDepth := level.doubledDepth + (if level.doubled then 1 else 0)
          put { level with depth := level.depth + 1, doubledDepth } outer marks
      | some c =>
        if startsName c then
          let (name, after) ← takeWhile continuesName fuel (some c)
          lex fuel last level outer
            (.parameter (String.ofList name) .value level.doubled :: marks) quoted after
        else put level outer (.parameter (String.singleton c) .value level.doubled :: marks)
      | none => put level outer marks

/-- Reads a script in back quotes. -/
def readBackQuoted : Nat → Bool → Reader Script
  | 0, _ => return .nothing
  | fuel + 1, doubled => do
    let text ← takeBackQuoted doubled fuel
    let s ← get
    let inside := { s with chars := text, aliasTexts := [], line := 1, awaited := [] }
    set { inside with again := false, checks := {} }
    let script ← readList fuel false true
    readDocuments fuel
    modify fun after => { s with documents := after.documents, again := false }
    return script

/-- Reads a script up to a closing bracket. -/
def readSubstitution : Nat → Reader Script
  | 0 => return .nothing
  | fuel + 1 => do
    let s ← get
    set { s with awaited := [], checks := {} }
    let script ← readList fuel false true
    if (← readToken fuel) ≠ .closing then unexpected (some .closing)
    readDocuments fuel
    modify fun after => { after with awaited := s.awaited, checks := s.checks }
    return script

/-- Reads the documents that have been asked for. -/
def readDocuments : Nat → Reader Unit
  | 0 => return
  | fuel + 1 => do
    let s ← get
    match s.awaited with
    | [] => return
    | a :: rest =>
      set { s with awaited := rest }
      let level : Level := if a.literal then { mode := .single } else
        { mode := .doubled, doubled := true }
      let ends ← documentEnds a.last a.trimmed
      let read ←
        if ends then pure ⟨[], false, none, level⟩
        else do lex fuel (some (a.last, a.trimmed)) level [] [] false (← char?)
      let word ← documentOf read
      modify fun s => { s with documents := s.documents.setIfInBounds a.index word }
      readDocuments fuel

/-- Reads a token, where nothing but its first character decides what it is. -/
def readRawToken : Nat → Reader Token
  | 0 => return .endOfScript
  | fuel + 1 => do
    let s ← get
    if s.again then
      set { s with again := false }
      return s.token
    let found (t : Token) : Reader Token := do
      modify fun s => { s with token := t }
      return t
    match ← joined? with
    | none => found .endOfScript
    | some ' ' | some '\t' => readRawToken fuel
    | some '#' =>
      skipComment
      readRawToken fuel
    | some '\n' =>
      countLine
      found .newline
    | some '&' => if ← takeIf '&' then found .both else found .ampersand
    | some '|' => if ← takeIf '|' then found .either else found .pipe
    | some ';' => if ← takeIf ';' then found .choiceEnd else found .semicolon
    | some '(' => found .opening
    | some ')' => found .closing
    | some c => readWordToken fuel c

/-- Reads a word, or a redirection, from its first character. -/
def readWordToken : Nat → Char → Reader Token
  | 0, _ => return .endOfScript
  | fuel + 1, c => do
    let read ← lex fuel none {} [] [] false (some c)
    if read.level.mode = .arithmetic then stop "Missing '))'"
    if read.level.mode ≠ .bare then stop "Unterminated quoted string"
    if read.level.depth > 0 then stop "Missing '\x7d'"
    let number? : Option (Option Nat) :=
      match read.marks with
      | [] => some none
      | [.piece (.char d)] => if d.isDigit then some (some (d.toNat - '0'.toNat)) else none
      | _ => none
    let token : Token ←
      match read.next, number? with
      | some '>', some n => do
        readOutputRedirection (n.getD 1)
        pure .redirection
      | some '<', some n => do
        readInputRedirection (n.getD 0)
        pure .redirection
      | next, _ => do
        putBack next
        modify fun s => { s with word := wordOf read.marks.reverse, quoted := read.quoted }
        pure .word
    modify fun s => { s with token }
    return token
where
  /-- Reads the rest of a redirection that begins with `>`. -/
  readOutputRedirection (stream : Nat) : Reader Unit := do
    let pending : Pending ←
      match ← joined? with
      | some '>' => pure (.file stream .append)
      | some '|' => pure (.file stream .overwrite)
      | some '&' => pure (.copy stream)
      | c => do
        putBack c
        pure (.file stream .output)
    modify fun s => { s with pending }
  /-- Reads the rest of a redirection that begins with `<`. -/
  readInputRedirection (stream : Nat) : Reader Unit := do
    let pending : Pending ←
      match ← joined? with
      | some '<' => do pure (.document stream (← takeIf '-'))
      | some '&' => pure (.copy stream)
      | some '>' => pure (.file stream .both)
      | c => do
        putBack c
        pure (.file stream .input)
    modify fun s => { s with pending }

/-- Reads a token as it is to be understood. -/
def readToken : Nat → Reader Token
  | 0 => return .endOfScript
  | fuel + 1 => do
    let checks := (← get).checks
    readTokenFor fuel checks

/-- Reads a token, looking for some things. -/
def readTokenFor : Nat → Checks → Reader Token
  | 0, _ => return .endOfScript
  | fuel + 1, checks => do
    let t ← readRawToken fuel
    if checks.newlines && t = .newline then
      readDocuments fuel
      readTokenFor fuel checks
    else
      let s ← get
      let checks := checks.or s.checks
      set { s with checks := {} }
      if t ≠ .word || s.quoted then return t
      match bare? s.word with
      | none => return t
      | some cs =>
        let text := String.ofList cs
        if checks.keywords && text ∈ keywords then
          modify fun s => { s with token := .keyword text }
          return .keyword text
        else if checks.aliases && !(s.aliasTexts.any (·.1 == text)) then
          match s.aliases.lookup text with
          | some value =>
            let blank := value.toList.getLast?.any fun c => c = ' ' || c = '\t'
            if !value.isEmpty then
              modify fun s =>
                { s with aliasTexts := (text, blank, value.toList) :: s.aliasTexts }
            readTokenFor fuel checks
          | none => return t
        else return t

/-- Reads a list of commands. At the `top` it ends with the line; otherwise line ends part commands.
With `closed`, the list may be empty, and ends before a token that ends lists. -/
def readList : Nat → Bool → Bool → Reader Script
  | 0, _, _ => return .nothing
  | fuel + 1, top, closed => readListFrom fuel top closed .nothing

/-- Reads the rest of a list of commands. -/
def readListFrom : Nat → Bool → Bool → Script → Reader Script
  | 0, _, _, done => return done
  | fuel + 1, top, closed, done => do
    modify fun s => { s with checks := { newlines := !top, keywords := true, aliases := true } }
    let t ← readToken fuel
    if t = .newline then
      readDocuments fuel
      return done
    else if t = .endOfScript then
      readDocuments fuel
      modify fun s => { s with again := true, token := .endOfScript }
      return done
    else
      modify fun s => { s with again := true }
      if closed && t.endsList then return done
      else
        let command ← readChain fuel
        let t ← readToken fuel
        let command :=
          if t = .ampersand then
            match command with
            | .pipe stages _ => .pipe stages true
            | .redirected line body redirections => .aside line body redirections
            | other => .aside 0 other []
          else command
        let all :=
          match done with
          | .nothing => command
          | done => .sequence done command
        match t with
        | .endOfScript =>
          readDocuments fuel
          modify fun s => { s with again := true, token := .endOfScript }
          return all
        | .newline =>
          modify fun s => { s with again := true }
          readListFrom fuel top (closed || !top) all
        | .ampersand | .semicolon => readListFrom fuel top (closed || !top) all
        | _ =>
          if top then unexpected none
          else
            modify fun s => { s with again := true }
            return all

/-- Reads commands with `&&` and `||` between them. -/
def readChain : Nat → Reader Script
  | 0 => return .nothing
  | fuel + 1 => do
    let first ← readPipe fuel
    readChainFrom fuel first

/-- Reads the rest of a chain. -/
def readChainFrom : Nat → Script → Reader Script
  | 0, done => return done
  | fuel + 1, done => do
    let t ← readToken fuel
    if t = .both || t = .either then
      modify fun s => { s with checks := { newlines := true, keywords := true, aliases := true } }
      let next ← readPipe fuel
      readChainFrom fuel (if t = .both then .both done next else .either done next)
    else
      modify fun s => { s with again := true }
      return done

/-- Reads commands with pipes between them. -/
def readPipe : Nat → Reader Script
  | 0 => return .nothing
  | fuel + 1 => do
    let t ← readToken fuel
    let negated := t = .keyword "!"
    if negated then modify fun s => { s with checks := { keywords := true, aliases := true } }
    else modify fun s => { s with again := true }
    let first ← readCommandOnly fuel
    let t ← readToken fuel
    let whole ←
      if t = .pipe then do
        let others ← readStages fuel
        pure (.pipe (first :: others) false)
      else pure first
    modify fun s => { s with again := true }
    return if negated then .negation whole else whole

/-- Reads commands, each after a pipe. -/
def readStages : Nat → Reader (List Script)
  | 0 => return []
  | fuel + 1 => do
    modify fun s => { s with checks := { newlines := true, keywords := true, aliases := true } }
    let stage ← readCommandOnly fuel
    let t ← readToken fuel
    if t = .pipe then return stage :: (← readStages fuel) else return [stage]

/-- Reads one command with its redirections. -/
def readCommandOnly : Nat → Reader Script
  | 0 => return .nothing
  | fuel + 1 => do
    let line := (← get).line
    let expect (t : Token) : Reader Unit := do
      if (← readToken fuel) ≠ t then unexpected (some t)
    let t ← readToken fuel
    match t with
    | .keyword "if" =>
      let body ← readBranch fuel
      expect (.keyword "fi")
      readRedirections fuel line body
    | .keyword "while" | .keyword "until" =>
      let condition ← readList fuel false false
      expect (.keyword "do")
      let body ← readList fuel false false
      expect (.keyword "done")
      readRedirections fuel line (.loop (t = .keyword "until") condition body)
    | .keyword "for" => readEach fuel line
    | .keyword "case" =>
      if (← readToken fuel) ≠ .word then unexpected (some .word)
      let subject := (← get).word
      modify fun s => { s with checks := { newlines := true, keywords := true, aliases := true } }
      expect (.keyword "in")
      let choices ← readChoices fuel
      readRedirections fuel line (.select line subject choices)
    | .opening =>
      let body ← readList fuel false false
      expect .closing
      match ← readRedirections fuel line body with
      | .redirected _ body redirections => return .apart line body redirections
      | body => return .apart line body []
    | .keyword "\x7b" =>
      let body ← readList fuel false false
      expect (.keyword "\x7d")
      readRedirections fuel line body
    | .word | .redirection =>
      modify fun s => { s with again := true }
      readSimple fuel line [] [] [] true
    | _ => unexpected none

/-- Reads a branch after `if` or `elif`, up to `fi`. -/
def readBranch : Nat → Reader Script
  | 0 => return .nothing
  | fuel + 1 => do
    let condition ← readList fuel false false
    if (← readToken fuel) ≠ .keyword "then" then unexpected (some (.keyword "then"))
    let consequence ← readList fuel false false
    match ← readToken fuel with
    | .keyword "elif" =>
      let other ← readBranch fuel
      return .branch condition consequence (some other)
    | .keyword "else" =>
      let other ← readList fuel false false
      return .branch condition consequence (some other)
    | _ =>
      modify fun s => { s with again := true }
      return .branch condition consequence none

/-- Reads a `for` after its first word. -/
def readEach : Nat → Nat → Reader Script
  | 0, _ => return .nothing
  | fuel + 1, line => do
    let t ← readToken fuel
    let s ← get
    let name := (bare? s.word).getD []
    if t ≠ .word || s.quoted || !isName name then stop "Bad for loop variable"
    modify fun s => { s with checks := { newlines := true, keywords := true, aliases := true } }
    let items ←
      if (← readToken fuel) = .keyword "in" then do
        let items ← readItems fuel
        let t := (← get).token
        if t ≠ .newline && t ≠ .semicolon then unexpected none
        pure items
      else do
        if (← get).token ≠ .semicolon then modify fun s => { s with again := true }
        pure [[.mark, .parameter "@" .value [] true, .mark]]
    modify fun s => { s with checks := { newlines := true, keywords := true, aliases := true } }
    if (← readToken fuel) ≠ .keyword "do" then unexpected (some (.keyword "do"))
    let body ← readList fuel false false
    if (← readToken fuel) ≠ .keyword "done" then unexpected (some (.keyword "done"))
    readRedirections fuel line (.each line (String.ofList name) items body)

/-- Reads words. -/
def readItems : Nat → Reader (List Word)
  | 0 => return []
  | fuel + 1 => do
    if (← readToken fuel) = .word then
      let w := (← get).word
      return w :: (← readItems fuel)
    else return []

/-- Reads the choices of a `case` up to its end. -/
def readChoices : Nat → Reader (List Choice)
  | 0 => return []
  | fuel + 1 => do
    modify fun s => { s with checks := { newlines := true, keywords := true } }
    let t ← readToken fuel
    if t = .keyword "esac" then return []
    if t = .opening then let _ ← readToken fuel
    let patterns ← readPatterns fuel
    if (← get).token ≠ .closing then unexpected (some .closing)
    let body ← readList fuel false true
    modify fun s => { s with checks := { newlines := true, keywords := true } }
    let t ← readToken fuel
    let choice := Choice.mk patterns body
    if t = .keyword "esac" then return [choice]
    else if t ≠ .choiceEnd then unexpected (some .choiceEnd)
    else return choice :: (← readChoices fuel)

/-- Reads the patterns of a choice, of which the first has been read. -/
def readPatterns : Nat → Reader (List Word)
  | 0 => return []
  | fuel + 1 => do
    let w := (← get).word
    if (← readToken fuel) = .pipe then
      let _ ← readToken fuel
      return w :: (← readPatterns fuel)
    else return [w]

/-- Reads the target of a redirection. -/
def readTarget : Nat → Reader Redirection
  | 0 => return .document 0 0
  | fuel + 1 => do
    let pending := (← get).pending
    if let .document .. := pending then
      modify fun s => { s with checks := { documentEnd := true } }
    if (← readToken fuel) ≠ .word then unexpected none
    let s ← get
    match pending with
    | .file stream direction => return .file stream direction s.word
    | .copy stream => return .copy stream s.word
    | .document stream trimmed =>
      let index := s.documents.size
      let a : Awaited := { index, last := plainText s.word, trimmed, literal := s.quoted }
      set { s with documents := s.documents.push [], awaited := s.awaited ++ [a] }
      return .document stream index

/-- Reads the redirections after a command. -/
def readRedirections : Nat → Nat → Script → Reader Script
  | 0, _, body => return body
  | fuel + 1, line, body => do
    modify fun s => { s with checks := { keywords := true, aliases := true } }
    let redirections ← readTargets fuel
    modify fun s => { s with again := true }
    return if redirections.isEmpty then body else .redirected line body redirections

/-- Reads redirections as long as there are any. -/
def readTargets : Nat → Reader (List Redirection)
  | 0 => return []
  | fuel + 1 => do
    if (← readToken fuel) = .redirection then
      let r ← readTarget fuel
      return r :: (← readTargets fuel)
    else return []

/-- Reads a simple command, of which some parts have been read, the last first. -/
def readSimple : Nat → Nat → List (String × Word) → List Word → List Redirection → Bool →
    Reader Script
  | 0, _, _, _, _, _ => return .nothing
  | fuel + 1, line, assignments, words, redirections, first => do
    modify fun s => { s with checks := { aliases := first } }
    let t ← readToken fuel
    let s ← get
    match t with
    | .word =>
      match (if first then assignment? s.word else none) with
      | some a => readSimple fuel line (a :: assignments) words redirections true
      | none => readSimple fuel line assignments (s.word :: words) redirections false
    | .redirection =>
      let r ← readTarget fuel
      readSimple fuel line assignments words (r :: redirections) first
    | .opening =>
      match words, assignments, redirections with
      | [w], [], [] =>
        if (← readToken fuel) ≠ .closing then unexpected (some .closing)
        let name := (bare? w).getD []
        if !isName name || String.ofList name ∈ specialNames then stop "Bad function name"
        modify fun s =>
          { s with checks := { newlines := true, keywords := true, aliases := true } }
        return .definition (String.ofList name) (← readCommandOnly fuel)
      | _, _, _ =>
        modify fun s => { s with again := true }
        return .simple line assignments.reverse words.reverse redirections.reverse
    | _ =>
      modify fun s => { s with again := true }
      return .simple line assignments.reverse words.reverse redirections.reverse
where
  /-- The names of commands that no definition can take. -/
  specialNames : List String :=
    [".", ":", "break", "continue", "eval", "exec", "exit", "export", "readonly", "return", "set",
      "shift", "times", "trap", "unset"]

end

/-- A bound on the steps in which a source is read. -/
def Source.fuel (s : Source) : Nat :=
  (s.aliases.foldl (fun n a => n + a.2.length) s.chars.length) * 16 + 256

/-- Reads all that is left of a source as if it stood in a document. -/
def readQuoted (s : Source) : Except SyntaxFault (Word × Source) :=
  let steps : Reader Word := do
    let level : Level := { mode := .doubled, doubled := true }
    let read ← lex s.fuel (some (['\n'], false)) level [] [] false (← char?)
    documentOf read
  steps.run { s with again := false, checks := {}, awaited := [] }

/-- Reads the next complete command of a script, or tells that there is none. -/
def readCommand (s : Source) : Except SyntaxFault (Option Script × Source) :=
  let start := { s with again := false, checks := {}, awaited := [], token := .newline }
  match (readList s.fuel true false).run start with
  | .error fault => .error fault
  | .ok (script, after) =>
    match script with
    | .nothing =>
      if after.again && after.token = .endOfScript then .ok (none, after)
      else .ok (some .nothing, after)
    | script => .ok (some script, after)

/-- After a command that was read, the script is over. -/
def Source.isOver (s : Source) : Bool := s.again && s.token = .endOfScript

end ContractBindings.Shell
