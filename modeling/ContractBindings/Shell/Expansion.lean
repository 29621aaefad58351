import ContractBindings.Shell.Arithmetic
import ContractBindings.Shell.Field

/-!
# Expansion

What words stand for: parameters, the output of scripts, numbers and homes are put in, and what was
put in outside quotes is split into fields. How a script is carried out is a parameter here.
-/

namespace ContractBindings.Shell

open Process

/-- Carries out a script and gives back what it has said. -/
abbrev Capture := Script → Sh String

namespace Expansion

/-- Where a `~` stands for a home. -/
inductive Home where
  | nowhere
  /-- At the start of a word. -/
  | start
  /-- At the start of a value and after each of its colons. -/
  | value
  /-- In the value of an assignment that is a word. -/
  | assignment
  deriving DecidableEq

/-- How a word is expanded. -/
structure Manner where
  /-- Into fields. -/
  splits : Bool := false
  /-- In quotes. -/
  quoted : Bool := false
  /-- As a part of an expansion, in which blanks separate fields. -/
  nested : Bool := false

/-! ## Parameters -/

/-- What stands between arguments that are put in one after the other: nothing, a gap, or a
character. -/
def between (name : String) (m : Manner) : Sh (List Cell) := do
  if m.splits && (name = "@" || !m.quoted) then
    if m.quoted then return [.gap]
    return if (← Sh.lookup? "IFS").isSome then [.gap] else [.char ' ' false]
  match ← Sh.lookup? "IFS" with
  | none => return [.char ' ' m.quoted]
  | some separators => return (separators.toList.take 1).map (.char · m.quoted)

/-- The value of a parameter. -/
def value? (name : String) (m : Manner) : Sh (Option (List Cell)) := do
  let s ← get
  let plain (text : String) : Option (List Cell) := some (cellsOf text m.quoted)
  match name with
  | "$" => return plain (toString s.process)
  | "?" => return plain (toString s.status)
  | "#" => return plain (toString s.args.length)
  | "!" => return s.lastJob.bind fun n => plain (toString n)
  | "-" => return plain (String.ofList s.options)
  | "@" | "*" =>
    let gap ← between name m
    return some (gap.intercalate (s.args.map (cellsOf · m.quoted)))
  | name =>
    match name.toNat? with
    | some 0 => return plain s.name
    | some n => return s.args[n - 1]?.bind plain
    | none => return (← Sh.lookup? name).bind plain

/-- The cells up to the first gap. -/
def upToGap (cells : List Cell) : List Cell := cells.takeWhile (· ≠ .gap)

/-- Cuts what matches a pattern off cells. -/
def trim (trim : Trim) (pattern : List Char) (cells : List Cell) : List Cell :=
  let holds (cells : List Cell) : Bool :=
    Text.Pattern.isMatch pattern (textOf (upToGap cells)).toList
  let places := List.range (cells.length + 1)
  let firstPlaces := List.range ((upToGap cells).length + 1)
  match trim with
  | .shortestStart =>
    (firstPlaces.find? fun n => holds (cells.take n)).elim cells cells.drop
  | .longestStart =>
    (places.reverse.find? fun n => holds (cells.take n)).elim cells cells.drop
  | .shortestEnd =>
    (places.reverse.find? fun n => holds (cells.drop n)).elim cells cells.take
  | .longestEnd =>
    (firstPlaces.find? fun n => holds (cells.drop n)).elim cells cells.take

/-- Complains about a parameter that has no value. -/
def refuse {α : Type} (name text : String) : Sh α := Sh.fault (name ++ ": " ++ text)

/-! ## Homes -/

/-- The home of a user. -/
def home? (user : String) : Sh (Option String) := do
  match user with
  | "" => Sh.lookup? "HOME"
  | "root" => return some "/root"
  | "daemon" => return some "/usr/sbin"
  | "bin" => return some "/bin"
  | "sys" => return some "/dev"
  | "nobody" => return some "/nonexistent"
  | _ => return none

/-- The name after a `~`, if it ends where one can end. -/
def user? (home : Home) : Word → Option (List Char)
  | .char c :: rest =>
    if c = '/' || (c = ':' && home ≠ .start) then some []
    else (user? home rest).map (c :: ·)
  | [] => some []
  | _ => none

/-! ## Words -/

/-- What comes before `"$@"` and after it is no quote of its own. -/
def isWholeArguments : Word → Option Word
  | .mark :: .parameter "@" .value _ _ :: .mark :: rest => some rest
  | _ => none

/-- How the text of a word is split. -/
def literalSplitting (m : Manner) (inQuotes : Bool) : Splitting :=
  if m.nested && !m.quoted && !inQuotes then .separators else .never

/-- Adds a cell before parts. -/
def addCell (cell : Cell) (splitting : Splitting) : List Part → List Part
  | [] => [⟨[cell], splitting⟩]
  | part :: rest =>
    if part.splitting = splitting then ⟨cell :: part.cells, splitting⟩ :: rest
    else ⟨[cell], splitting⟩ :: part :: rest

mutual

/-- Expands a word. `atHome` tells that a `~` would stand for a home here. -/
def parts (capture : Capture) : Nat → Manner → Home → Bool → Bool → Word → Sh (List Part)
  | 0, _, _, _, _, _ => return []
  | _ + 1, _, _, _, _, [] => return []
  | fuel + 1, m, home, atHome, inQuotes, piece :: rest => do
    let literal := literalSplitting m inQuotes
    let next (home : Home) (atHome : Bool) : Sh (List Part) :=
      parts capture fuel m home atHome inQuotes rest
    match isWholeArguments (piece :: rest), inQuotes with
    | some rest, false =>
      let first ← parameter capture fuel { m with quoted := true } "@" .value []
      return first ++ (← parts capture fuel m home false inQuotes rest)
    | _, _ =>
      match piece with
      | .char '~' =>
        match (if atHome then user? home rest else none) with
        | none => return addCell (.char '~' false) literal (← next home false)
        | some user =>
          match ← home? (String.ofList user) with
          | none => return addCell (.char '~' false) literal (← next home false)
          | some path =>
            let others ←
              parts capture fuel m home false inQuotes (rest.drop user.length)
            return ⟨cellsOf path true, .never⟩ :: others
      | .char c =>
        let (home, atHome) : Home × Bool :=
          if c = '=' && home = .assignment then (.value, true)
          else (home, c = ':' && home = .value)
        return addCell (.char c false) literal (← next home atHome)
      | .quoted c => return addCell (.char c true) .never (← next home false)
      | .mark =>
        return addCell .mark .never (← parts capture fuel m home false (!inQuotes) rest)
      | .parameter name operation word _ =>
        let quoted := m.quoted || inQuotes
        let first ← parameter capture fuel { m with quoted } name operation word
        return first ++ (← next home false)
      | .output script _ =>
        let text := String.ofList ((← capture script).toList.filter (· ≠ '\x00'))
        let text := String.ofList (text.toList.reverse.dropWhile (· = '\n')).reverse
        let quoted := m.quoted || inQuotes
        let first : Part := ⟨cellsOf text quoted, if quoted then .never else .separators⟩
        return first :: (← next home false)
      | .number expression _ =>
        let text ← parts capture fuel {} .nowhere false false expression
        let value ← Sh.evaluate (textOf (text.flatMap (·.cells)))
        let quoted := m.quoted || inQuotes
        let cells := cellsOf (toString value.toInt) quoted
        return ⟨cells, if quoted then .never else .separators⟩ :: (← next home false)

/-- Expands a parameter. -/
def parameter (capture : Capture) : Nat → Manner → String → Operation → Word → Sh (List Part)
  | 0, _, _, _, _ => return []
  | fuel + 1, m, name, operation, word => do
    let before ← value? name m
    let filled (colon : Bool) : Bool :=
      match before with
      | none => false
      | some cells => !(colon && cells.isEmpty)
    let count := (← get).args.length
    let splitting : Splitting :=
      if !m.quoted then .separators
      else if name = "@" && count ≠ 0 then .gaps
      else .never
    let whole (cells : List Cell) : Sh (List Part) := return [⟨cells, splitting⟩]
    let nested : Sh (List Part) :=
      parts capture fuel { m with nested := true } .start true false word
    let text (manner : Manner) : Sh String := do
      return textOf ((← parts capture fuel manner .start true false word).flatMap (·.cells))
    let value : Sh (List Cell) := do
      match before with
      | some cells => return cells
      | none =>
        if ← Sh.isOn 'u' then refuse name "parameter not set"
        return []
    match operation with
    | .value => whole (← value)
    | .length =>
      let cells ← value
      whole (cellsOf (toString cells.length) m.quoted)
    | .fallback .use colon => if filled colon then whole (← value) else nested
    | .fallback .instead colon => if filled colon then nested else return []
    | .fallback .assign colon =>
      if filled colon then whole (← value)
      else
        let value ← text { quoted := m.quoted }
        Sh.assignNamed name (some value)
        whole (((← value? name m)).getD [])
    | .fallback .complain colon =>
      if filled colon then whole (← value)
      else if word.isEmpty then
        refuse name ("parameter not set" ++ if colon then " or null" else "")
      else refuse name (← text { quoted := m.quoted })
    | .trim kind =>
      let cells ← value
      let pattern := (← parts capture fuel {} .start true false word).flatMap (·.cells)
      whole (trim kind (Field.patternOf pattern) cells)
    | .unknown => Sh.fault "Bad substitution"

end

/-- The depth of a word that is never reached. -/
def maxSteps : Nat := 1000000

end Expansion

namespace Sh

open Expansion

/-- The fields of a word. -/
def fields (capture : Capture) (w : Word) : Sh (List String) := do
  let parts ← Expansion.parts capture maxSteps { splits := true } .start true false w
  let found := Field.split (← separators) none parts
  if ← isOn 'f' then return found.map textOf
  else
    let disk := (← get).machine.disk
    return found.flatMap (Field.texts disk)

/-- The fields of words. -/
def allFields (capture : Capture) : List Word → Sh (List String)
  | [] => return []
  | w :: rest => do
    let first ← fields capture w
    return first ++ (← allFields capture rest)

/-- The text of a word that is not split. -/
def text (capture : Capture) (home : Home) (w : Word) : Sh String := do
  let atHome := home = .start || home = .value
  return textOf ((← Expansion.parts capture maxSteps {} home atHome false w).flatMap (·.cells))

/-- The text of a document. -/
def document (capture : Capture) (w : Word) : Sh String := do
  let manner : Manner := { quoted := true }
  let found ← Expansion.parts capture maxSteps manner .nowhere false false w
  return textOf (found.flatMap (·.cells))

/-- The pattern of a word. -/
def pattern (capture : Capture) (w : Word) : Sh (List Char) := do
  let parts ← Expansion.parts capture maxSteps {} .start true false w
  return Field.patternOf (parts.flatMap (·.cells))

end Sh

end ContractBindings.Shell
