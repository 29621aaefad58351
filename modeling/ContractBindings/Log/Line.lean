import ContractBindings.Log.Entry
import ContractBindings.Text.Ink
import ContractBindings.Text.Quoted

/-!
# Lines of the log

How entries are written for a reader at a terminal, and which of them: those of a level that was
asked for and above it.
-/

namespace ContractBindings.Log

open Text (Span plain)

/-- Which entries are written. -/
inductive Filter where
  /-- None of them. -/
  | nothing
  /-- Those of a level and above. -/
  | from (level : Level)
  deriving DecidableEq, Repr

namespace Filter

/-- An entry passes the filter. -/
def passes (e : Entry) : Filter → Bool
  | nothing => false
  | .from level => level.weight ≤ e.level.weight

/-- The filter for how often more of the log was asked for. -/
def ofVerbosity : Nat → Filter
  | 0 => .from .warn
  | 1 => .from .info
  | _ => .from .debug

/-- The filter of a number. -/
def ofNumber : Nat → Filter
  | 5 | 4 => .from .debug
  | 3 => .from .info
  | 2 => .from .warn
  | _ => nothing

/-- The value of decimal digits, which may follow a plus sign. -/
def number? (name : String) : Option Nat :=
  let digits := if name.toList.head? == some '+' then name.toList.tail else name.toList
  if digits.isEmpty || !digits.all Char.isDigit then none
  else some (digits.foldl (fun n d => n * 10 + (d.toNat - '0'.toNat)) 0)

/-- The filter of a level, which has a name, in any case, and a number. -/
def ofLevel? (name : String) : Option Filter :=
  match number? name with
  | some n => if n ≤ 5 then some (ofNumber n) else none
  | none =>
    match String.ofList (name.toList.map Char.toLower) with
    | "trace" | "debug" => some (.from .debug)
    | "info" => some (.from .info)
    | "warn" => some (.from .warn)
    | "error" | "off" => some nothing
    | _ => none

/-- A wish for the log: a level for all entries, or something about others than these. Blanks may
stand around it, but then it is no level. -/
def wish? (text : String) : Option (Option Filter) :=
  match text.toList.dropWhile Char.isWhitespace with
  | [] => none
  | c :: _ =>
    if !c.isAlphanum && c ∉ ['-', ':', '_'] && c.toNat < 0x80 then none
    else
      match text.splitOn "=" with
      | [text] => some (ofLevel? text)
      | [_, ""] => some none
      | [_, level] => if (ofLevel? level).isSome then some none else none
      | _ => none

/-- The filter of a text: of wishes between commas, the last level counts, and without a level every
entry is kept out. One wish that cannot be understood spoils all. -/
def ofText? (text : String) : Option Filter :=
  ((text.splitOn ",").filter (· ≠ "")).foldlM
    (fun filter text => (wish? text).map fun wish => wish.getD filter) nothing

end Filter

/-- The ink of a level. -/
def Level.ink : Level → Text.Ink
  | .debug => .blue
  | .info => .green
  | .warn => .yellow

/-- A text with spaces before it, up to five characters. -/
def rightAligned (s : String) : String :=
  String.ofList (List.replicate (5 - s.length) ' ') ++ s

/-- The named values of an entry as a line shows them: as they are, but for the contract of a
binding, which stands in quotes. -/
def Entry.shownFields : Entry → List (String × String)
  | .generated contract functions events =>
    (Entry.generated (Text.quoted contract) functions events).fields
  | e => e.fields

/-- The line of an entry. -/
def Entry.line (time : String) (e : Entry) : List Span :=
  [⟨.dim, time⟩, plain " ", ⟨e.level.ink, rightAligned e.level.name⟩, plain (" " ++ e.message)] ++
    e.shownFields.flatMap (fun (name, value) =>
      [plain " ", ⟨.italic, name⟩, ⟨.dim, "="⟩, plain value]) ++
    [plain "\n"]

/-- The lines of the entries that pass a filter, all at one time. -/
def lines (filter : Filter) (time : String) (entries : List Entry) : List Span :=
  (entries.filter fun e => filter.passes e).flatMap (Entry.line time)

end ContractBindings.Log
