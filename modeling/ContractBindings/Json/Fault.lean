import ContractBindings.Json.Value
import ContractBindings.Number.Shortest
import ContractBindings.Text.Quoted

/-!
# What can be wrong with JSON

* `SyntaxFault`: the text is not JSON.
* `ShapeFault`: the value is not of the shape that its reader expects.
* `Position`: a place in a text, by line and by byte within the line.
* `ReadFault`: either fault, at the place where reading stopped.
-/

namespace ContractBindings.Json

/-! ## Syntax -/

/-- The ways in which a text is not JSON. -/
inductive SyntaxFault where
  /-- The text ends inside an array. -/
  | endInArray
  /-- The text ends inside an object. -/
  | endInObject
  /-- The text ends inside a quoted text. -/
  | endInText
  /-- The text ends where a value should stand or go on. -/
  | endInValue
  /-- No colon after a key. -/
  | missingColon
  /-- Neither a comma nor the end after an element. -/
  | missingElementEnd
  /-- Neither a comma nor the end after a member. -/
  | missingMemberEnd
  /-- A misspelt `null`, `true` or `false`. -/
  | badLiteral
  /-- No value starts with this character. -/
  | missingValue
  /-- An unknown escape, or one without its hexadecimal digits. -/
  | badEscape
  /-- A number without the digits it needs, or with a leading zero. -/
  | badNumber
  /-- A number above the range of binary64. -/
  | outOfRange
  /-- Half of a surrogate pair in the wrong place. -/
  | loneSurrogate
  /-- The first half of a surrogate pair without a second escape. -/
  | unfinishedPair
  /-- A control character inside a quoted text. -/
  | controlCharacter
  /-- A key that is not a quoted text. -/
  | badKey
  /-- A comma before the end of an array or object. -/
  | trailingComma
  /-- Something after the value. -/
  | trailingCharacters
  /-- Too many levels of arrays and objects. -/
  | tooDeep
  deriving DecidableEq, Repr

/-- The wording of a syntax fault. -/
def SyntaxFault.message : SyntaxFault → String
  | .endInArray => "EOF while parsing a list"
  | .endInObject => "EOF while parsing an object"
  | .endInText => "EOF while parsing a string"
  | .endInValue => "EOF while parsing a value"
  | .missingColon => "expected `:`"
  | .missingElementEnd => "expected `,` or `]`"
  | .missingMemberEnd => "expected `,` or `\x7d`"
  | .badLiteral => "expected ident"
  | .missingValue => "expected value"
  | .badEscape => "invalid escape"
  | .badNumber => "invalid number"
  | .outOfRange => "number out of range"
  | .loneSurrogate => "lone leading surrogate in hex escape"
  | .unfinishedPair => "unexpected end of hex escape"
  | .controlCharacter => "control character (\\u0000-\\u001F) found while parsing a string"
  | .badKey => "key must be a string"
  | .trailingComma => "trailing comma"
  | .trailingCharacters => "trailing characters"
  | .tooDeep => "recursion limit exceeded"

/-! ## Shape -/

/-- A value as a shape fault names it. -/
inductive Found where
  | null
  | boolean (value : Bool)
  | number (value : Number)
  | text (value : String)
  | array
  | object
  deriving DecidableEq, Repr

/-- What a shape fault says of a value. -/
def found : Json → Found
  | .null => .null
  | .bool b => .boolean b
  | .number n => .number n
  | .text s => .text s
  | .array _ => .array
  | .object _ => .object

/-- The wording of a found value. -/
def Found.described : Found → String
  | .null => "null"
  | .boolean b => "boolean `" ++ (if b then "true" else "false") ++ "`"
  | .number (.integer n) => "integer `" ++ toString n ++ "`"
  | .number (.binary64 x) => "floating point `" ++ String.ofList x.text ++ "`"
  | .text s => "string " ++ Text.quoted s
  | .array => "sequence"
  | .object => "map"

/-- What a reader expects. -/
inductive Expected where
  /-- A text. -/
  | text
  /-- An array. -/
  | array
  /-- A boolean. -/
  | boolean
  /-- Nothing but `null`. -/
  | nothing
  /-- The text that names an alternative. -/
  | alternative
  /-- An alternative as a text or as the one key of an object. -/
  | textOrObject
  /-- An object with one key. -/
  | singleKey
  /-- One of several records, told apart by a tag. -/
  | tagged (name : String)
  /-- A record. -/
  | record (name : String)
  /-- A record given as an array of its fields. -/
  | recordOf (name : String) (fields : Nat)
  /-- An array of some length. -/
  | elements (count : Nat)
  deriving DecidableEq, Repr

/-- A number of elements. -/
def elementCount (n : Nat) : String :=
  if n = 1 then "1 element" else toString n ++ " elements"

/-- The wording of an expectation. -/
def Expected.described : Expected → String
  | .text => "a string"
  | .array => "a sequence"
  | .boolean => "a boolean"
  | .nothing => "unit"
  | .alternative => "variant identifier"
  | .textOrObject => "string or map"
  | .singleKey => "map with a single key"
  | .tagged name => "internally tagged enum " ++ name
  | .record name => "struct " ++ name
  | .recordOf name fields => "struct " ++ name ++ " with " ++ elementCount fields
  | .elements count => elementCount count ++ " in sequence"

/-- The ways in which a value does not have the shape that its reader expects. -/
inductive ShapeFault where
  /-- A value of another kind. -/
  | wrongKind (found : Found) (expected : Expected)
  /-- A value of the right kind with the wrong content. -/
  | wrongContent (found : Found) (expected : Expected)
  /-- An array of the wrong length. -/
  | wrongLength (length : Nat) (expected : Expected)
  /-- A field that is required and not there. -/
  | missingField (name : String)
  /-- A field given twice. -/
  | repeatedField (name : String)
  /-- A name that is none of the alternatives. -/
  | unknownAlternative (name : String) (known : List String)
  deriving DecidableEq, Repr

/-- A list of names between backquotes. -/
def backquoted (names : List String) : String :=
  ", ".intercalate (names.map fun name => "`" ++ name ++ "`")

/-- The wording of a shape fault. -/
def ShapeFault.message : ShapeFault → String
  | .wrongKind found expected =>
    "invalid type: " ++ found.described ++ ", expected " ++ expected.described
  | .wrongContent found expected =>
    "invalid value: " ++ found.described ++ ", expected " ++ expected.described
  | .wrongLength length expected =>
    "invalid length " ++ toString length ++ ", expected " ++ expected.described
  | .missingField name => "missing field `" ++ name ++ "`"
  | .repeatedField name => "duplicate field `" ++ name ++ "`"
  | .unknownAlternative name known =>
    "unknown variant `" ++ name ++ "`, expected one of " ++ backquoted known

/-! ## Places in a text -/

/-- A place in a text: lines count from 1, columns count the bytes before the place. -/
structure Position where
  /-- The line. -/
  line : Nat
  /-- The bytes of the line before the place. -/
  column : Nat
  deriving DecidableEq, Repr

/-- Moves a position over the first `bytes` bytes of a text; it may end inside a character. -/
def Position.advance (p : Position) : List Char → Nat → Position
  | [], _ => p
  | c :: rest, bytes =>
    if bytes = 0 then p
    else if c = '\n' then Position.advance ⟨p.line + 1, 0⟩ rest (bytes - 1)
    else if bytes < c.utf8Size then ⟨p.line, p.column + bytes⟩
    else Position.advance ⟨p.line, p.column + c.utf8Size⟩ rest (bytes - c.utf8Size)

/-- The bytes of a text. -/
def byteCount (s : List Char) : Nat :=
  s.foldl (fun n c => n + c.utf8Size) 0

/-- The position of the place that has `rest` after it, and `ahead` bytes more if there are as
many. -/
def Position.of (text rest : List Char) (ahead : Nat) : Position :=
  let after := byteCount rest
  Position.advance ⟨1, 0⟩ text (byteCount text - after + min ahead after)

/-- A fault found while reading a text. -/
inductive ReadFault where
  /-- The text is not JSON. -/
  | syntaxFault (fault : SyntaxFault)
  /-- The value does not have the expected shape. -/
  | shapeFault (fault : ShapeFault)
  deriving DecidableEq, Repr

/-- The wording of a fault without its place. -/
def ReadFault.message : ReadFault → String
  | .syntaxFault fault => fault.message
  | .shapeFault fault => fault.message

/-- A fault found while reading a text, and its place. -/
structure PlacedFault where
  /-- What is wrong. -/
  fault : ReadFault
  /-- Where reading stopped. -/
  position : Position
  deriving DecidableEq, Repr

/-- The wording of a fault with its place. -/
def PlacedFault.message (p : PlacedFault) : String :=
  p.fault.message ++ " at line " ++ toString p.position.line ++ " column " ++
    toString p.position.column

end ContractBindings.Json
